import StakingIndexer.AddressMap
import StakingIndexer.Event
import StakingIndexer.Protocol

/-!
# Figures that follow from what is read

The yearly returns of ledger reports, the inflation of the relay chain, the times of eras
and the value of the supply.
-/

namespace StakingIndexer
namespace Metrics

/-!
## Yearly returns

Each report is annualised by itself. Reports within bounds are averaged for each ledger,
in the order of its reports, and the averages over the ledgers in ascending order of
their addresses, so that the order of different ledgers' reports does not matter.
-/

/-- The yearly return of one report in percent, zero if nothing was staked. -/
def eraApr (row : RewardRow) (erasPerDay : UInt64) : Float :=
  let reward := row.reward.toFloat
  let principal := row.balance.toFloat - reward
  if principal == 0.0 then 0.0
  else reward / principal * erasPerDay.toFloat * 365.0 * 100.0

/-- The sum and the number of a ledger's qualifying returns. -/
abbrev LedgerReturns := AddressMap (Float × UInt64)

/-- Count a report if its return lies within the bounds. -/
def tally (erasPerDay : UInt64) (aprMin aprMax : Float) (returns : LedgerReturns)
    (row : RewardRow) : LedgerReturns :=
  let apr := eraApr row erasPerDay
  if aprMin ≤ apr && apr ≤ aprMax then
    returns.update row.ledger (0.0, 0) fun r => (r.1 + apr, r.2 + 1)
  else returns

/-- The mean over the ledgers of each ledger's mean return, or `previous` if no report
qualifies. -/
def averageApr (previous : Float) (rows : List RewardRow) (erasPerDay : UInt64)
    (aprMin aprMax : Float) : Float :=
  let returns := rows.foldl (tally erasPerDay aprMin aprMax) AddressMap.empty
  if returns.isEmpty then previous
  else
    let sum := returns.values.foldl (fun acc r => acc + r.1 / r.2.toFloat) 0.0
    sum / returns.size.toUInt64.toFloat

/-- The average yearly return of a month's rows, divided by twelve. -/
def aprPerMonth (rows : List RewardRow) (c : ProtocolConstants) : Float :=
  averageApr 0.0 rows c.erasPerDay c.aprMin c.aprMax / 12.0

/-- The average yearly return of a week's rows, divided by fifty-two. -/
def aprPerWeek (rows : List RewardRow) (c : ProtocolConstants) : Float :=
  averageApr 0.0 rows c.erasPerDay c.aprMin c.aprMax / 52.0

/-- How many rows of a ledger cover a month of eras. -/
def monthRowLimit (c : ProtocolConstants) : UInt64 := c.erasPerDay * 30

/-- How many rows of a ledger cover a week of eras. -/
def weekRowLimit (c : ProtocolConstants) : UInt64 := c.erasPerDay * 7

/-!
## Inflation

Inflation rises linearly up to the ideal stake and decays exponentially beyond it,
within the bounds of the protocol.
-/

/-- What the inflation model answers. The yield is the inflation over the staked fraction,
zero if nothing is staked. -/
structure Inflation where
  stakedFraction : Float
  inflation : Float
  estimatedApy : Float

/-- Move a number into the bounds. There is no answer unless the lower bound is at most the
upper one, which also excludes bounds that are not numbers. -/
def clamp? (x low high : Float) : Option Float :=
  if low ≤ high then
    let x := if x < low then low else x
    some (if x > high then high else x)
  else none

def stakedFraction (staked issuance : Amount) : Float :=
  if staked.isZero || issuance.isZero then 0.0 else staked.toFloat / issuance.toFloat

/-- The inflation under a number of auctions. There is no answer if a positive ideal stake
meets bounds that are not in order. -/
def inflationRate (c : ProtocolConstants) (auctions : UInt32) (staked issuance : Amount) :
    Option Inflation :=
  let fraction := stakedFraction staked issuance
  let counted := (min c.auctionMax auctions).toFloat
  let ideal := c.stakeTarget - counted * c.auctionAdjust
  if ideal ≤ 0.0 then some ⟨fraction, c.minInflation, 0.0⟩
  else
    let interest := c.maxInflation / ideal
    let inflation :=
      if fraction ≤ ideal then
        c.minInflation + fraction * (interest - c.minInflation / ideal)
      else
        c.minInflation + (interest * ideal - c.minInflation)
          * Float.pow 2.0 ((ideal - fraction) / c.falloff)
    (clamp? inflation c.minInflation c.maxInflation).map fun inflation =>
      ⟨fraction, inflation, if fraction == 0.0 then 0.0 else inflation / fraction⟩

/-!
## Eras and the value of the supply

Times are unix seconds in signed words, which wrap around.
-/

/-- The seconds between two blocks of the relay chain. -/
def relayBlockTime : Int64 := 6

/-- How long the oracles wait after the end of an era. -/
def oracleReportDelay : Int64 := 600

/-- When the next era of the relay chain starts, seen from a block of the active era. -/
def relayNextEraStart (eraDuration block eraStart timestamp : UInt64) : Int64 :=
  let elapsed := block.toInt64 - eraStart.toInt64
  (eraDuration.toInt64 - elapsed) * relayBlockTime + timestamp.toInt64

/-- When the next era of the oracle starts, counted from its anchor. -/
def oracleNextEraStart (eraId anchorEraId secondsPerEra anchorTimestamp : UInt64) : Int64 :=
  let eras := eraId.toInt64 + 1 - anchorEraId.toInt64
  eras * secondsPerEra.toInt64 + oracleReportDelay + anchorTimestamp.toInt64

/-- The supply at a price, if there is one. -/
def supplyUsd (supply : Amount) (price : Option Float) : Option Float :=
  price.map fun price => supply.toFloat * price

end Metrics
end StakingIndexer
