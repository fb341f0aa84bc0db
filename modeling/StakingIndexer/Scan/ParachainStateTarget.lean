import StakingIndexer.Contract.Snapshot
import StakingIndexer.Metrics
import StakingIndexer.Rpc.Basic
import StakingIndexer.Scan.Scanner

/-!
# The parachain state target

Snapshots of the contracts replace the snapshot scalars of the parachain's state and the
records of its ledgers. The supply is valued at the price of the day, if one is known.
-/

namespace StakingIndexer
namespace ParachainStateTarget

/-- The values of a snapshot that are published but not stored. -/
def snapshotGauges (s : Contract.Snapshot) : List Gauge :=
  [.amount "nimbus_tokens" s.nimbusTokens, .amount "controller_balance" s.controllerBalance]
    ++ s.oracleBalances.map (fun (oracle, balance) =>
        .labeled "oracle_service_balance" "address" oracle.toChecksum balance.toFloat)
    ++ [.amount "withdrawal_tokens" s.withdrawal.tokens,
        .amount "withdrawal_pending_for_claiming" s.withdrawal.pendingForClaiming,
        .amount "withdrawal_total_virtual_xctoken_amount" s.withdrawal.totalVirtualXctokenAmount,
        .amount "withdrawal_total_xctoken_pool_shares" s.withdrawal.totalXctokenPoolShares]

/-- The scalars that a snapshot replaces. -/
def scalars (s : Contract.Snapshot) (price : Option Float) : ScalarOverwrites :=
  { totalSupply := some s.totalSupply
    totalSupplyUsd := Metrics.supplyUsd s.totalSupply price
    contractBufferedDeposits := some s.bufferedDeposits
    contractBufferedRedeems := some s.bufferedRedeems
    eraId := some s.oracleEra.eraId
    currentEraId := some s.oracleEra.currentEraId
    nextEraStartTime := some (Metrics.oracleNextEraStart s.oracleEra.currentEraId
      s.oracleEra.anchorEraId s.oracleEra.secondsPerEra s.oracleEra.anchorTimestamp) }

/-- The output of a snapshot. -/
def output (a : EventAggregator) (state : AggregateState) (s : Contract.Snapshot)
    (price : Option Float) : Except AggregationError ScanOutput := do
  let applied ← a.apply state [] s.ledgers
  let delta := { applied.delta with scalars := scalars s price }
  return ⟨state.applyDelta delta, delta, snapshotGauges s⟩

/-- Whether no price is known, where prices are asked for. -/
def priceAlert (price : Option Float) : Gauge :=
  .plain "alert_token_price_is_none" (if price.isNone then 1.0 else 0.0)

/-- The gauges of one ledger. -/
def ledgerGauges (r : LedgerRecord) : List Gauge :=
  [("active_balance", r.activeBalance.toFloat),
    ("cached_total_balance", r.cachedTotalBalance.toFloat),
    ("locked_balance", r.lockedBalance.toFloat),
    ("status", r.status.code.toFloat),
    ("total_balance", r.totalBalance.toFloat),
    ("transfer_downward_balance", r.transferDownwardBalance.toFloat),
    ("transfer_upward_balance", r.transferUpwardBalance.toFloat),
    ("stake", r.stake.toFloat),
    ("borrow", r.borrow.toFloat),
    ("xctoken_balance", r.xctokenBalance.toFloat)].map fun (field, value) =>
      .labeled ("parachain_ledger_" ++ field) "ledger" r.ledger.toChecksum value

/-- What is published of the parachain's state. -/
def gauges (s : AggregateState) : List Gauge :=
  let stake := s.ledgers.values.foldl (fun acc r => acc.satAdd r.stake) Amount.zero
  [.amount "nimbus_total_supply" s.totalSupply]
    ++ (s.totalSupplyUsd.map (.plain "nimbus_total_supply_usd")).toList
    ++ [.amount "nimbus_buffered_deposits" s.contractBufferedDeposits,
        .amount "nimbus_buffered_redeems" s.contractBufferedRedeems]
    ++ (s.eraId.map fun era => .plain "oracle_master_era_id" era.toFloat).toList
    ++ (s.currentEraId.map fun era => .plain "oracle_master_current_era_id" era.toFloat).toList
    ++ (s.nextEraStartTime.map fun time =>
        .plain "oracle_master_next_era_start_time" time.toFloat).toList
    ++ s.ledgers.values.flatMap ledgerGauges
    ++ [.amount "parachain_ledgers_stake" stake]

variable {ω : Type}

/-- Take a snapshot at the last block of a window. -/
def scan (a : EventAggregator) (parachain : NodeLink ω Contract.Request)
    (addresses : ContractAddresses) (price : Option (ω → Option Float)) (window : BlockWindow)
    (state : AggregateState) : Action ω ScanError ScanOutput := do
  let snapshot ← (parachain.read NodeLink.stateOp fun api =>
    (Contract.View.mk api addresses window.last).snapshot).mapError .chain
  let w ← get
  let known := price.bind fun lookup => lookup w
  let out ← (MonadExcept.ofExcept (output a state snapshot known) :
    Action ω AggregationError ScanOutput).mapError .aggregation
  return if price.isSome then { out with gauges := out.gauges ++ [priceAlert known] } else out

/-- The target over the contracts at the given addresses. `price` looks up the price of the
day where there is a source of prices. -/
def target (a : EventAggregator) (parachain : NodeLink ω Contract.Request)
    (addresses : ContractAddresses) (price : Option (ω → Option Float)) : ScanTarget ω where
  id := .parachainState
  chain := .parachain
  kind := .snapshot
  initialCursor := 0
  throttle := none
  currentHeight := (parachain.read NodeLink.heightOp Contract.currentHeight).mapError .chain
  hydrate := pure
  scan window state w :=
    let (r, w) := scan a parachain addresses price window state w
    (.ofOutput r, w)
  gauges state _ := gauges state

end ParachainStateTarget
end StakingIndexer
