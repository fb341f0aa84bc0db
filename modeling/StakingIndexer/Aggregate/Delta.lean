import StakingIndexer.Aggregate.State

/-!
# Changes of an aggregate state

A scan window is stored as a change: counters that are added, scalars that are replaced,
balances that are set. Loops that share a row therefore compose.
-/

namespace StakingIndexer

/-- What a window adds to the counters. Drawn redeems are taken off the buffered ones, which
stop at zero. -/
structure CounterIncrements where
  deposited : Amount := .zero
  redeemed : Amount := .zero
  depositedCount : UInt64 := 0
  redeemedCount : UInt64 := 0
  rewardsAggregated : Amount := .zero
  lossesAggregated : Amount := .zero
  bufferedDeposits : Amount := .zero
  bufferedRedeemsDrawn : Amount := .zero
deriving DecidableEq, Inhabited

namespace CounterIncrements

/-- Whether no counter moves. -/
def isEmpty (c : CounterIncrements) : Bool := c = {}

end CounterIncrements

/-- The scalars that a window replaces; those that are absent stay. -/
structure ScalarOverwrites where
  totalSupply : Option Amount := none
  totalSupplyUsd : Option Float := none
  contractBufferedDeposits : Option Amount := none
  contractBufferedRedeems : Option Amount := none
  eraId : Option UInt64 := none
  currentEraId : Option UInt64 := none
  nextEraStartTime : Option Int64 := none
  relayActiveEraId : Option UInt64 := none
  relayNextEraStartTime : Option Int64 := none
  relayValidatorsCount : Option UInt64 := none
  relayTotalStaked : Option Amount := none
  relayTotalIssuance : Option Amount := none
  lastBlockWithEvents : Option UInt64 := none
  apr : Option Float := none
  aprPerMonth : Option Float := none
  aprPerWeek : Option Float := none
  inflationRate : Option Float := none
  estimatedApy : Option Float := none
deriving Inhabited, BEq

/-- The change that one scan window makes to the stored state of a chain. A holder's balance
is the one after the window, and zero removes the holder; reports are appended in the order
of their events; a set of validator records replaces the whole set. -/
structure AggregateDelta where
  chain : Chain
  counters : CounterIncrements := {}
  scalars : ScalarOverwrites := {}
  holderBalances : AddressMap Amount := .empty
  holdersNumber : Option UInt64 := none
  rewardRows : List RewardRow := []
  ledgers : List LedgerRecord := []
  relayLedgers : List RelayLedgerRecord := []
  validatorsInfo : Option (List ValidatorsInfo) := none
deriving Inhabited, BEq

namespace AggregateState

/-- Replace the scalars that are given. -/
def overwrite (s : AggregateState) (o : ScalarOverwrites) : AggregateState :=
  { s with
    totalSupply := o.totalSupply.getD s.totalSupply
    totalSupplyUsd := o.totalSupplyUsd <|> s.totalSupplyUsd
    contractBufferedDeposits := o.contractBufferedDeposits.getD s.contractBufferedDeposits
    contractBufferedRedeems := o.contractBufferedRedeems.getD s.contractBufferedRedeems
    eraId := o.eraId <|> s.eraId
    currentEraId := o.currentEraId <|> s.currentEraId
    nextEraStartTime := o.nextEraStartTime <|> s.nextEraStartTime
    relay :=
      { activeEraId := o.relayActiveEraId <|> s.relay.activeEraId
        nextEraStartTime := o.relayNextEraStartTime <|> s.relay.nextEraStartTime
        validatorsCount := o.relayValidatorsCount <|> s.relay.validatorsCount
        totalStaked := o.relayTotalStaked.getD s.relay.totalStaked
        totalIssuance := o.relayTotalIssuance.getD s.relay.totalIssuance }
    lastBlockWithEvents := o.lastBlockWithEvents <|> s.lastBlockWithEvents
    apr := o.apr.getD s.apr
    aprPerMonth := o.aprPerMonth.getD s.aprPerMonth
    aprPerWeek := o.aprPerWeek.getD s.aprPerWeek
    inflationRate := o.inflationRate.getD s.inflationRate
    estimatedApy := o.estimatedApy.getD s.estimatedApy }

/-- Add to the counters. -/
def increment (s : AggregateState) (c : CounterIncrements) : AggregateState :=
  { s with
    deposited := s.deposited.satAdd c.deposited
    redeemed := s.redeemed.satAdd c.redeemed
    depositedCount := s.depositedCount + c.depositedCount
    redeemedCount := s.redeemedCount + c.redeemedCount
    rewardsAggregated := s.rewardsAggregated.satAdd c.rewardsAggregated
    lossesAggregated := s.lossesAggregated.satAdd c.lossesAggregated
    bufferedDeposits := s.bufferedDeposits.satAdd c.bufferedDeposits
    bufferedRedeems := s.bufferedRedeems.satSub c.bufferedRedeemsDrawn }

/-- Set the balance of a holder, dropping a holder whose balance is zero. -/
def setBalance (balances : AddressMap Amount) (holder : Address) (balance : Amount) :
    AddressMap Amount :=
  if balance.isZero then balances.erase holder else balances.insert holder balance

/-- The state after a change. The history of recent reports is not part of the change. -/
def applyDelta (s : AggregateState) (d : AggregateDelta) : AggregateState :=
  let s := (s.overwrite d.scalars).increment d.counters
  { s with
    holderBalances := d.holderBalances.entries.foldl
      (fun m e => setBalance m e.1 e.2) s.holderBalances
    holdersNumber := d.holdersNumber.getD s.holdersNumber
    ledgers := d.ledgers.foldl (fun m r => m.insert r.ledger r) s.ledgers
    relayLedgers := d.relayLedgers.foldl (fun m r => m.insert r.ledger r) s.relayLedgers }

end AggregateState
end StakingIndexer
