import StakingIndexer.Aggregate.Delta
import StakingIndexer.Database.Column

/-!
# Rows of tables

Each record has a row, and reading a row converts its columns in order; the first column
that has no counterpart decides the error.
-/

namespace StakingIndexer

open Column

/-- The position of a scan target. -/
structure CursorRow where
  chain : String
  target : String
  block : Int64
  advancedAt : Int
deriving DecidableEq

namespace CursorRow

def ofCursor (c : ScanCursor) : Converted CursorRow := do
  return ⟨c.chain.name, c.target.name, ← ofWord c.block, c.advancedAt⟩

def toCursor (r : CursorRow) : Converted ScanCursor := do
  return {
    chain := ← toChain r.chain
    target := ← toTarget r.target
    block := ← toWord r.block
    advancedAt := r.advancedAt }

end CursorRow

/-- The aggregates of a chain, without its holders, ledgers and reports. -/
structure AggregateRow where
  chain : String
  totalSupply : Numeric := .zero
  totalSupplyUsd : Option Float := none
  contractBufferedDeposits : Numeric := .zero
  contractBufferedRedeems : Numeric := .zero
  eraId : Option Int64 := none
  currentEraId : Option Int64 := none
  nextEraStartTime : Option Int64 := none
  relayActiveEraId : Option Int64 := none
  relayNextEraStartTime : Option Int64 := none
  relayValidatorsCount : Option Int64 := none
  relayTotalStaked : Numeric := .zero
  relayTotalIssuance : Numeric := .zero
  aprPerMonth : Float := 0.0
  aprPerWeek : Float := 0.0
  inflationRate : Float := 0.0
  estimatedApy : Float := 0.0
  bufferedDeposits : Numeric := .zero
  bufferedRedeems : Numeric := .zero
  deposited : Numeric := .zero
  redeemed : Numeric := .zero
  depositedCount : Int64 := 0
  redeemedCount : Int64 := 0
  rewardsAggregated : Numeric := .zero
  lossesAggregated : Numeric := .zero
  holdersNumber : Int64 := 0
  lastBlockWithEvents : Option Int64 := none
  apr : Float := 0.0

namespace AggregateRow

def numerics (r : AggregateRow) : List Numeric :=
  [r.totalSupply, r.contractBufferedDeposits, r.contractBufferedRedeems, r.relayTotalStaked,
    r.relayTotalIssuance, r.bufferedDeposits, r.bufferedRedeems, r.deposited, r.redeemed,
    r.rewardsAggregated, r.lossesAggregated]

/-- The state of the chain, without what other tables hold. -/
def toState (r : AggregateRow) : Converted AggregateState := do
  let chain ← toChain r.chain
  let state := AggregateState.empty chain
  return { state with
    totalSupply := ← toAmount r.totalSupply
    totalSupplyUsd := r.totalSupplyUsd
    contractBufferedDeposits := ← toAmount r.contractBufferedDeposits
    contractBufferedRedeems := ← toAmount r.contractBufferedRedeems
    eraId := ← r.eraId.mapM toWord
    currentEraId := ← r.currentEraId.mapM toWord
    nextEraStartTime := r.nextEraStartTime
    relay :=
      { activeEraId := ← r.relayActiveEraId.mapM toWord
        nextEraStartTime := r.relayNextEraStartTime
        validatorsCount := ← r.relayValidatorsCount.mapM toWord
        totalStaked := ← toAmount r.relayTotalStaked
        totalIssuance := ← toAmount r.relayTotalIssuance }
    aprPerMonth := r.aprPerMonth
    aprPerWeek := r.aprPerWeek
    inflationRate := r.inflationRate
    estimatedApy := r.estimatedApy
    bufferedDeposits := ← toAmount r.bufferedDeposits
    bufferedRedeems := ← toAmount r.bufferedRedeems
    deposited := ← toAmount r.deposited
    redeemed := ← toAmount r.redeemed
    depositedCount := ← toWord r.depositedCount
    redeemedCount := ← toWord r.redeemedCount
    rewardsAggregated := ← toAmount r.rewardsAggregated
    lossesAggregated := ← toAmount r.lossesAggregated
    holdersNumber := ← toWord r.holdersNumber
    lastBlockWithEvents := ← r.lastBlockWithEvents.mapM toWord
    apr := r.apr }

end AggregateRow

/-- The columns of an aggregate row that a change replaces; those that are absent stay. -/
structure AggregateColumns where
  totalSupply : Option Numeric := none
  totalSupplyUsd : Option Float := none
  eraId : Option Int64 := none
  currentEraId : Option Int64 := none
  nextEraStartTime : Option Int64 := none
  relayActiveEraId : Option Int64 := none
  relayNextEraStartTime : Option Int64 := none
  relayValidatorsCount : Option Int64 := none
  relayTotalStaked : Option Numeric := none
  relayTotalIssuance : Option Numeric := none
  aprPerMonth : Option Float := none
  aprPerWeek : Option Float := none
  inflationRate : Option Float := none
  estimatedApy : Option Float := none
  contractBufferedDeposits : Option Numeric := none
  contractBufferedRedeems : Option Numeric := none
  holdersNumber : Option Int64 := none
  lastBlockWithEvents : Option Int64 := none
  apr : Option Float := none

namespace AggregateColumns

/-- The columns that a change replaces. -/
def ofDelta (d : AggregateDelta) : Converted AggregateColumns := do
  let s := d.scalars
  return {
    totalSupply := s.totalSupply.map .ofAmount
    totalSupplyUsd := s.totalSupplyUsd
    eraId := ← s.eraId.mapM ofWord
    currentEraId := ← s.currentEraId.mapM ofWord
    nextEraStartTime := s.nextEraStartTime
    relayActiveEraId := ← s.relayActiveEraId.mapM ofWord
    relayNextEraStartTime := s.relayNextEraStartTime
    relayValidatorsCount := ← s.relayValidatorsCount.mapM ofWord
    relayTotalStaked := s.relayTotalStaked.map .ofAmount
    relayTotalIssuance := s.relayTotalIssuance.map .ofAmount
    aprPerMonth := s.aprPerMonth
    aprPerWeek := s.aprPerWeek
    inflationRate := s.inflationRate
    estimatedApy := s.estimatedApy
    contractBufferedDeposits := s.contractBufferedDeposits.map .ofAmount
    contractBufferedRedeems := s.contractBufferedRedeems.map .ofAmount
    holdersNumber := ← d.holdersNumber.mapM ofWord
    lastBlockWithEvents := ← s.lastBlockWithEvents.mapM ofWord
    apr := s.apr }

/-- Whether no column is replaced. -/
def isEmpty (c : AggregateColumns) : Bool :=
  c.totalSupply.isNone && c.totalSupplyUsd.isNone && c.eraId.isNone && c.currentEraId.isNone
    && c.nextEraStartTime.isNone && c.relayActiveEraId.isNone && c.relayNextEraStartTime.isNone
    && c.relayValidatorsCount.isNone && c.relayTotalStaked.isNone && c.relayTotalIssuance.isNone
    && c.aprPerMonth.isNone && c.aprPerWeek.isNone && c.inflationRate.isNone
    && c.estimatedApy.isNone && c.contractBufferedDeposits.isNone
    && c.contractBufferedRedeems.isNone && c.holdersNumber.isNone
    && c.lastBlockWithEvents.isNone && c.apr.isNone

/-- Replace columns of a row. -/
def apply (c : AggregateColumns) (r : AggregateRow) : AggregateRow :=
  { r with
    totalSupply := c.totalSupply.getD r.totalSupply
    totalSupplyUsd := c.totalSupplyUsd <|> r.totalSupplyUsd
    eraId := c.eraId <|> r.eraId
    currentEraId := c.currentEraId <|> r.currentEraId
    nextEraStartTime := c.nextEraStartTime <|> r.nextEraStartTime
    relayActiveEraId := c.relayActiveEraId <|> r.relayActiveEraId
    relayNextEraStartTime := c.relayNextEraStartTime <|> r.relayNextEraStartTime
    relayValidatorsCount := c.relayValidatorsCount <|> r.relayValidatorsCount
    relayTotalStaked := c.relayTotalStaked.getD r.relayTotalStaked
    relayTotalIssuance := c.relayTotalIssuance.getD r.relayTotalIssuance
    aprPerMonth := c.aprPerMonth.getD r.aprPerMonth
    aprPerWeek := c.aprPerWeek.getD r.aprPerWeek
    inflationRate := c.inflationRate.getD r.inflationRate
    estimatedApy := c.estimatedApy.getD r.estimatedApy
    contractBufferedDeposits := c.contractBufferedDeposits.getD r.contractBufferedDeposits
    contractBufferedRedeems := c.contractBufferedRedeems.getD r.contractBufferedRedeems
    holdersNumber := c.holdersNumber.getD r.holdersNumber
    lastBlockWithEvents := c.lastBlockWithEvents <|> r.lastBlockWithEvents
    apr := c.apr.getD r.apr }

end AggregateColumns

/-- The balance of a holder. -/
structure HolderRow where
  chain : String
  address : String
  balance : Numeric
deriving DecidableEq

namespace HolderRow

def ofHolder (chain : Chain) (holder : Address) (balance : Amount) : HolderRow :=
  ⟨chain.name, holder.toChecksum, .ofAmount balance⟩

def toHolder (r : HolderRow) : Converted (Address × Amount) := do
  return (← toAddress r.address, ← toAmount r.balance)

end HolderRow

/-- A report of a ledger. Later reports have greater numbers. -/
structure ReportRow where
  number : Nat := 0
  ledger : String
  reward : Numeric
  balance : Numeric
  block : Int64
deriving DecidableEq, Inhabited

namespace ReportRow

/-- The row of a report, which gets its number when it is stored. -/
def ofReward (r : RewardRow) : Converted ReportRow := do
  return {
    ledger := r.ledger.toChecksum
    reward := .ofSigned r.reward
    balance := .ofAmount r.balance
    block := ← ofWord r.block }

def toReward (r : ReportRow) : Converted RewardRow := do
  return {
    ledger := ← toAddress r.ledger
    reward := ← toSigned r.reward
    balance := ← toAmount r.balance
    block := ← toWord r.block }

end ReportRow

/-- A ledger as the contracts show it. -/
structure LedgerRow where
  ledger : String
  activeBalance : Numeric := .zero
  cachedTotalBalance : Numeric := .zero
  lockedBalance : Numeric := .zero
  status : Int := 0
  totalBalance : Numeric := .zero
  transferDownwardBalance : Numeric := .zero
  transferUpwardBalance : Numeric := .zero
  stake : Numeric := .zero
  borrow : Numeric := .zero
  xctokenBalance : Numeric := .zero
deriving DecidableEq

namespace LedgerRow

def ofRecord (r : LedgerRecord) : LedgerRow where
  ledger := r.ledger.toChecksum
  activeBalance := .ofAmount r.activeBalance
  cachedTotalBalance := .ofAmount r.cachedTotalBalance
  lockedBalance := .ofAmount r.lockedBalance
  status := r.status.code
  totalBalance := .ofAmount r.totalBalance
  transferDownwardBalance := .ofAmount r.transferDownwardBalance
  transferUpwardBalance := .ofAmount r.transferUpwardBalance
  stake := .ofAmount r.stake
  borrow := .ofAmount r.borrow
  xctokenBalance := .ofAmount r.xctokenBalance

def numerics (r : LedgerRow) : List Numeric :=
  [r.activeBalance, r.cachedTotalBalance, r.lockedBalance, r.totalBalance,
    r.transferDownwardBalance, r.transferUpwardBalance, r.stake, r.borrow, r.xctokenBalance]

def toRecord (r : LedgerRow) : Converted LedgerRecord := do
  return {
    ledger := ← toAddress r.ledger
    activeBalance := ← toAmount r.activeBalance
    cachedTotalBalance := ← toAmount r.cachedTotalBalance
    lockedBalance := ← toAmount r.lockedBalance
    status := ← toStatus r.status
    totalBalance := ← toAmount r.totalBalance
    transferDownwardBalance := ← toAmount r.transferDownwardBalance
    transferUpwardBalance := ← toAmount r.transferUpwardBalance
    stake := ← toAmount r.stake
    borrow := ← toAmount r.borrow
    xctokenBalance := ← toAmount r.xctokenBalance }

end LedgerRow

/-- A ledger as the staking pallet shows it. -/
structure RelayLedgerRow where
  ledger : String
  stash : String := ""
  activeBalance : Numeric := .zero
  totalBalance : Numeric := .zero
  stashBalance : Numeric := .zero
  stakeStatus : Int := 0
  validatorsCount : Int64 := 0
  totalUnlockingBalance : Numeric := .zero
  earliestEraForUnlocking : Int64 := 0
deriving DecidableEq

namespace RelayLedgerRow

def ofRecord (r : RelayLedgerRecord) : Converted RelayLedgerRow := do
  return {
    ledger := r.ledger.toChecksum
    stash := r.stash
    activeBalance := .ofAmount r.activeBalance
    totalBalance := .ofAmount r.totalBalance
    stashBalance := .ofAmount r.stashBalance
    stakeStatus := r.stakeStatus.code
    validatorsCount := ← ofWord r.validatorsCount
    totalUnlockingBalance := .ofAmount r.totalUnlockingBalance
    earliestEraForUnlocking := ← ofWord r.earliestEraForUnlocking }

def numerics (r : RelayLedgerRow) : List Numeric :=
  [r.activeBalance, r.totalBalance, r.stashBalance, r.totalUnlockingBalance]

def toRecord (r : RelayLedgerRow) : Converted RelayLedgerRecord := do
  return {
    ledger := ← toAddress r.ledger
    stash := r.stash
    activeBalance := ← toAmount r.activeBalance
    totalBalance := ← toAmount r.totalBalance
    stashBalance := ← toAmount r.stashBalance
    stakeStatus := ← toStatus r.stakeStatus
    validatorsCount := ← toWord r.validatorsCount
    totalUnlockingBalance := ← toAmount r.totalUnlockingBalance
    earliestEraForUnlocking := ← toWord r.earliestEraForUnlocking }

end RelayLedgerRow

/-- The validators of a ledger's stash. -/
structure ValidatorsRow where
  ledger : String
  stash : String := ""
  activeStake : Numeric := .zero
  validators : List String := []
deriving DecidableEq

namespace ValidatorsRow

def ofInfo (v : ValidatorsInfo) : ValidatorsRow :=
  ⟨v.ledger.toChecksum, v.stash, .ofAmount v.activeStake, v.validators⟩

def toInfo (r : ValidatorsRow) : Converted ValidatorsInfo := do
  return {
    ledger := ← toAddress r.ledger
    stash := r.stash
    activeStake := ← toAmount r.activeStake
    validators := r.validators }

end ValidatorsRow
end StakingIndexer
