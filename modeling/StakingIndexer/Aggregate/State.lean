import StakingIndexer.AddressMap
import StakingIndexer.Chain
import StakingIndexer.Event
import StakingIndexer.Ledger

/-!
# The aggregate state of a chain

Snapshot fields hold the last snapshot of their scan target. Fields derived from events
hold exactly the events up to the cursor of the events target.
-/

namespace StakingIndexer

/-- What is known about the staking pallet as a whole. -/
structure RelayAggregates where
  activeEraId : Option UInt64
  nextEraStartTime : Option Int64
  validatorsCount : Option UInt64
  totalStaked : Amount
  totalIssuance : Amount
deriving Inhabited, BEq

/-- The aggregate state of one chain. Records are kept by ledger, tracked balances are never
zero, and the recent reports of each ledger, whose average return is `apr`, are oldest
first. -/
structure AggregateState where
  chain : Chain
  totalSupply : Amount
  totalSupplyUsd : Option Float
  contractBufferedDeposits : Amount
  contractBufferedRedeems : Amount
  eraId : Option UInt64
  currentEraId : Option UInt64
  nextEraStartTime : Option Int64
  relay : RelayAggregates
  aprPerMonth : Float
  aprPerWeek : Float
  inflationRate : Float
  estimatedApy : Float
  ledgers : AddressMap LedgerRecord
  relayLedgers : AddressMap RelayLedgerRecord
  bufferedDeposits : Amount
  bufferedRedeems : Amount
  deposited : Amount
  redeemed : Amount
  depositedCount : UInt64
  redeemedCount : UInt64
  rewardsAggregated : Amount
  lossesAggregated : Amount
  holdersNumber : UInt64
  holderBalances : AddressMap Amount
  lastBlockWithEvents : Option UInt64
  apr : Float
  recentRewards : AddressMap (List RewardRow)
deriving Inhabited, BEq

namespace AggregateState

/-- The state of a chain of which nothing is known. -/
def empty (chain : Chain) : AggregateState where
  chain
  totalSupply := .zero
  totalSupplyUsd := none
  contractBufferedDeposits := .zero
  contractBufferedRedeems := .zero
  eraId := none
  currentEraId := none
  nextEraStartTime := none
  relay := ⟨none, none, none, .zero, .zero⟩
  aprPerMonth := 0.0
  aprPerWeek := 0.0
  inflationRate := 0.0
  estimatedApy := 0.0
  ledgers := .empty
  relayLedgers := .empty
  bufferedDeposits := .zero
  bufferedRedeems := .zero
  deposited := .zero
  redeemed := .zero
  depositedCount := 0
  redeemedCount := 0
  rewardsAggregated := .zero
  lossesAggregated := .zero
  holdersNumber := 0
  holderBalances := .empty
  lastBlockWithEvents := none
  apr := 0.0
  recentRewards := .empty

/-- The last `limit` elements of a queue. -/
def keepLast {α : Type} (limit : Nat) (queue : List α) : List α := queue.drop (queue.length - limit)

/-- Append a report to its ledger's history, of which the last `limit` reports stay. -/
def pushReward (s : AggregateState) (row : RewardRow) (limit : Nat) : AggregateState :=
  { s with
    recentRewards :=
      s.recentRewards.update row.ledger [] fun rows => keepLast limit (rows ++ [row]) }

/-- Ascending ledgers, and ascending blocks within a ledger. -/
def historyLe (a b : RewardRow) : Bool :=
  a.ledger < b.ledger || (a.ledger == b.ledger && a.block ≤ b.block)

/-- Replace the history by reports that come in any order. Reports of one ledger and block
keep the order in which they come. -/
def withHistory (s : AggregateState) (rows : List RewardRow) : AggregateState :=
  { s with
    recentRewards := (rows.mergeSort historyLe).foldl
      (fun m row => m.update row.ledger [] (· ++ [row])) .empty }

end AggregateState
end StakingIndexer
