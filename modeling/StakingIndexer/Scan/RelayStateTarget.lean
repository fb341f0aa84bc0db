import StakingIndexer.Metrics
import StakingIndexer.Relay.EraStart
import StakingIndexer.Relay.Snapshot
import StakingIndexer.Scan.ChainSources
import StakingIndexer.Scan.Scanner

/-!
# The relay state target

Snapshots of the staking pallet replace the scalars of the relay chain's state and the
records of its ledgers; inflation and the returns of a month and a week follow from them.
-/

namespace StakingIndexer

/-- The account that pays for the service, and its address. -/
structure PayoutAccount where
  account : AccountId
  address : String
deriving DecidableEq

/-- An era and its first block. -/
structure EraStart where
  era : UInt32
  block : UInt64
deriving DecidableEq

namespace RelayStateTarget

/-- The reports of every ledger over two spans of time. -/
structure RecentReports where
  month : List RewardRow
  week : List RewardRow

/-- The change that a snapshot makes, unless the constants admit no inflation. -/
def delta? (c : ProtocolConstants) (s : Relay.StakingSnapshot) (eraStart : Option UInt64)
    (reports : RecentReports) : Option AggregateDelta := do
  let inflation ← Metrics.inflationRate c s.auctions s.totalStaked s.totalIssuance
  return {
    chain := .relayChain
    scalars :=
      { relayActiveEraId := s.activeEra.map (·.index.toUInt64)
        relayNextEraStartTime := eraStart.map fun start =>
          Metrics.relayNextEraStart c.eraDurationInBlocks s.block start s.timestamp
        relayValidatorsCount := some (UInt64.ofNat s.sessionValidators.length)
        relayTotalStaked := some s.totalStaked
        relayTotalIssuance := some s.totalIssuance
        inflationRate := some inflation.inflation
        estimatedApy := some inflation.estimatedApy
        aprPerMonth := some (Metrics.aprPerMonth reports.month c)
        aprPerWeek := some (Metrics.aprPerWeek reports.week c) }
    relayLedgers := s.ledgers }

/-- The balance of the payout account, if both are known. -/
def payoutGauges (payoutAddress : Option String) (s : Relay.StakingSnapshot) : List Gauge :=
  match payoutAddress, s.payoutBalance with
  | some address, some balance =>
    [.labeled "payout_service_balance" "address" address balance.toFloat]
  | _, _ => []

/-- The output of a snapshot, unless the constants admit no inflation. -/
def output? (c : ProtocolConstants) (state : AggregateState) (s : Relay.StakingSnapshot)
    (eraStart : Option UInt64) (reports : RecentReports) (payoutAddress : Option String) :
    Option ScanOutput := do
  let delta ← delta? c s eraStart reports
  return ⟨state.applyDelta delta, delta, payoutGauges payoutAddress s⟩

/-- The gauges of one ledger. -/
def ledgerGauges (r : RelayLedgerRecord) : List Gauge :=
  let ledger := r.ledger.toChecksum
  [("active_balance", r.activeBalance.toFloat),
    ("total_balance", r.totalBalance.toFloat),
    ("stash_balance", r.stashBalance.toFloat),
    ("stake_status", r.stakeStatus.code.toFloat),
    ("total_unlocking_balance", r.totalUnlockingBalance.toFloat),
    ("earliest_era_for_unlocking", r.earliestEraForUnlocking.toFloat)].map (fun (field, value) =>
      Gauge.labeled ("relay_chain_ledger_" ++ field) "ledger" ledger value)
    ++ [.labeled "validators_count" "ledger" ledger r.validatorsCount.toFloat]

/-- What is published of the relay chain's state. -/
def gauges (s : AggregateState) : List Gauge :=
  (s.relay.activeEraId.map fun era => Gauge.plain "relay_chain_active_era_id" era.toFloat).toList
    ++ (s.relay.nextEraStartTime.map fun time =>
        Gauge.plain "relay_chain_next_era_start_time" time.toFloat).toList
    ++ [.amount "relay_chain_total_staked_tokens" s.relay.totalStaked,
        .plain "inflation_rate" s.inflationRate,
        .plain "estimated_apy" s.estimatedApy,
        .plain "apr_per_month" s.aprPerMonth,
        .plain "apr_per_week" s.aprPerWeek]
    ++ s.relayLedgers.values.flatMap ledgerGauges

/-- What the target reads: both chains, the store, and the last era start that was found. -/
structure Sources (ω : Type) extends ChainSources ω where
  store : CheckpointStore ω
  knownStart : ω → Option EraStart
  rememberStart : EraStart → ω → ω

variable {ω : Type}

/-- The first block of an era that is active at `head`, looked for among the blocks of one
era before it. The last one found is remembered. -/
def eraStartBlock (c : ProtocolConstants) (src : Sources ω) (era : UInt32) (head : UInt64) :
    Action ω ReadError UInt64 := do
  let search : Action ω ReadError UInt64 := do
    let eraAt (block : UInt64) := src.relay.read NodeLink.stateOp fun api =>
      Relay.activeEraIndex api block
    let low := Word.satSub head c.eraDurationInBlocks
    let block ← Relay.findEraStart eraAt era low head
    modify (src.rememberStart ⟨era, block⟩)
    return block
  match src.knownStart (← get) with
  | some known => if known.era = era then return known.block else search
  | none => search

/-- Read everything that an output is made of. -/
def readInputs (c : ProtocolConstants) (src : Sources ω) (payout : Option PayoutAccount)
    (format : UInt16) (block : UInt64) :
    Action ω ScanError (Relay.StakingSnapshot × Option UInt64 × RecentReports) := do
  let stashes ← (src.stashes .oracleMaster).mapError .chain
  let query : Relay.StakingQuery := ⟨stashes, payout.map (·.account), format⟩
  let snapshot ← (src.relay.read NodeLink.stateOp fun api =>
    Relay.stakingSnapshot api query block).mapError .chain
  let eraStart ← snapshot.activeEra.mapM fun era =>
    (eraStartBlock c src era.index block).mapError .chain
  let month ← (src.store.recentRewards (Metrics.monthRowLimit c).toNat).mapError .store
  let week ← (src.store.recentRewards (Metrics.weekRowLimit c).toNat).mapError .store
  return (snapshot, eraStart, ⟨month, week⟩)

/-- Take a snapshot at the last block of a window. -/
def scan (c : ProtocolConstants) (src : Sources ω) (payout : Option PayoutAccount)
    (format : UInt16) (window : BlockWindow) (state : AggregateState) (w : ω) : ScanResult × ω :=
  match readInputs c src payout format window.last w with
  | (.error e, w) => (.failed e, w)
  | (.ok (snapshot, eraStart, reports), w) =>
    match output? c state snapshot eraStart reports (payout.map (·.address)) with
    | some out => (.output out, w)
    | none => (.aborted, w)

def target (c : ProtocolConstants) (src : Sources ω) (payout : Option PayoutAccount)
    (format : UInt16) : ScanTarget ω where
  id := .relayState
  chain := .relayChain
  kind := .snapshot
  initialCursor := 0
  throttle := none
  currentHeight := src.relayHeight.mapError .chain
  hydrate := pure
  scan := scan c src payout format
  gauges state _ := gauges state

end RelayStateTarget
end StakingIndexer
