import StakingIndexer.Ledger
import StakingIndexer.Relay.Client
import StakingIndexer.Relay.Ss58
import StakingIndexer.Relay.Staking
import StakingIndexer.Relay.Storage

/-!
# Snapshots of the staking pallet

What the relay chain stores at one block about the active era, the stashes of the pool's
ledgers and the validators that they nominate.
-/

namespace StakingIndexer
namespace Relay

/-- The staking pallet at one block, whose time is in seconds. The total stake is that of
the active era, `auctions` counts those held so far, and ledgers are in the order of their
stashes. -/
structure StakingSnapshot where
  block : UInt64
  timestamp : UInt64
  activeEra : Option ActiveEra
  totalStaked : Amount
  totalIssuance : Amount
  auctions : UInt32
  sessionValidators : List AccountId
  ledgers : List RelayLedgerRecord
  payoutBalance : Option Amount
deriving Inhabited

/-- The storage at one block of a chain. -/
structure BlockStorage (σ : Type) where
  api : Api σ
  hash : String

namespace BlockStorage

variable {σ α : Type}

/-- The storage at a height. -/
def atBlock (api : Api σ) (block : UInt64) : Action σ Interruption (BlockStorage σ) := do
  return ⟨api, ← blockHash api block⟩

def value (s : BlockStorage σ) (c : Codec α) (pallet item : String) :
    Action σ Interruption (Option α) :=
  storage s.api s.hash c (Storage.valueKey pallet item)

def entry (s : BlockStorage σ) (c : Codec α) (pallet item : String) (hasher : Hash.MapHasher)
    (key : Bytes) : Action σ Interruption (Option α) :=
  storage s.api s.hash c (Storage.mapKey pallet item hasher key)

def activeEra (s : BlockStorage σ) : Action σ Interruption (Option ActiveEra) :=
  s.value ActiveEra.codec "Staking" "ActiveEra"

/-- The whole stake of an era, zero if it is not stored. -/
def eraStake (s : BlockStorage σ) (era : UInt32) : Action σ Interruption Balance := do
  let stake ← s.entry Balance.codec "Staking" "ErasTotalStake" .twox64Concat (Codec.u32.encode era)
  return stake.getD .zero

/-- The controller of a stash. -/
def bonded (s : BlockStorage σ) (stash : AccountId) : Action σ Interruption (Option AccountId) :=
  s.entry AccountId.codec "Staking" "Bonded" .twox64Concat stash.bytes

/-- The stake of a controller. -/
def ledger (s : BlockStorage σ) (controller : AccountId) :
    Action σ Interruption (Option StakingLedger) :=
  s.entry StakingLedger.codec "Staking" "Ledger" .blake2b128Concat controller.bytes

def nominations (s : BlockStorage σ) (account : AccountId) :
    Action σ Interruption (Option Nominations) :=
  s.entry Nominations.codec "Staking" "Nominators" .twox64Concat account.bytes

def sessionValidators (s : BlockStorage σ) : Action σ Interruption (List AccountId) := do
  return (← s.value (.list AccountId.codec) "Session" "Validators").getD []

def totalIssuance (s : BlockStorage σ) : Action σ Interruption Balance := do
  return (← s.value Balance.codec "Balances" "TotalIssuance").getD .zero

def auctions (s : BlockStorage σ) : Action σ Interruption UInt32 := do
  return (← s.value Codec.u32 "Auctions" "AuctionCounter").getD 0

/-- The time of the block in milliseconds. -/
def timestamp (s : BlockStorage σ) : Action σ Interruption UInt64 := do
  return (← s.value Codec.u64 "Timestamp" "Now").getD 0

/-- The free balance of an account, zero if there is no account. -/
def freeBalance (s : BlockStorage σ) (account : AccountId) : Action σ Interruption Balance := do
  let info ← s.entry AccountInfo.codec "System" "Account" .blake2b128Concat account.bytes
  return info.elim .zero AccountInfo.free

/-- What a bonded stash does. -/
def stakeStatus (stash : AccountId) (nominations : Option Nominations)
    (sessionValidators : List AccountId) : LedgerStatus :=
  if nominations.isSome then .nominator
  else if sessionValidators.contains stash then .validator
  else .idle

/-- The record of a ledger, seen through its stash. -/
def relayLedger (s : BlockStorage σ) (l : StashLedger) (sessionValidators : List AccountId)
    (format : UInt16) : Action σ Interruption RelayLedgerRecord := do
  let balance ← s.freeBalance l.stash
  let own ← s.ledger l.stash
  let record : RelayLedgerRecord :=
    { ledger := l.ledger
      stash := Ss58.encode l.stash format
      activeBalance := .zero
      totalBalance := .zero
      stashBalance := balance.toAmount
      stakeStatus := .unbonded
      validatorsCount := 0
      totalUnlockingBalance := (own.elim .zero StakingLedger.totalUnlocking).toAmount
      earliestEraForUnlocking := (own.elim 0 StakingLedger.earliestUnlockingEra).toUInt64 }
  match ← s.bonded l.stash with
  | none => return record
  | some controller =>
    let stake ← s.ledger controller
    let nominations ← s.nominations l.stash
    let counted ← s.nominations controller
    return { record with
      activeBalance := (stake.elim .zero StakingLedger.active).toAmount
      totalBalance := (stake.elim .zero StakingLedger.total).toAmount
      stakeStatus := stakeStatus l.stash nominations sessionValidators
      validatorsCount := UInt64.ofNat (counted.elim 0 (·.targets.length)) }

/-- The validators that a stash nominates, and its stake. -/
def nominated (s : BlockStorage σ) (l : StashLedger) (format : UInt16) :
    Action σ Interruption ValidatorsInfo := do
  let stake ← match ← s.bonded l.stash with
    | some controller => s.ledger controller
    | none => pure none
  let nominations ← s.nominations l.stash
  return {
    ledger := l.ledger
    stash := Ss58.encode l.stash format
    activeStake := (stake.elim .zero StakingLedger.active).toAmount
    validators := (nominations.elim [] Nominations.targets).map fun v => Ss58.encode v format }

end BlockStorage

variable {σ : Type}

/-- What is asked of a snapshot. `format` is the network format of addresses. -/
structure StakingQuery where
  stashes : List StashLedger
  payoutAccount : Option AccountId
  format : UInt16

/-- Read the staking pallet at a block. -/
def stakingSnapshot (api : Api σ) (q : StakingQuery) (block : UInt64) :
    Action σ Interruption StakingSnapshot := do
  let s ← BlockStorage.atBlock api block
  let activeEra ← s.activeEra
  let totalStaked ← match activeEra with
    | some era => s.eraStake era.index
    | none => pure .zero
  let sessionValidators ← s.sessionValidators
  let ledgers ← q.stashes.mapM fun l => s.relayLedger l sessionValidators q.format
  let payoutBalance ← q.payoutAccount.mapM fun account => do
    return (← s.freeBalance account).toAmount
  let timestamp := (← s.timestamp) / 1000
  let totalIssuance ← s.totalIssuance
  let auctions ← s.auctions
  return {
    block, timestamp, activeEra, auctions, sessionValidators, ledgers, payoutBalance
    totalStaked := totalStaked.toAmount
    totalIssuance := totalIssuance.toAmount }

/-- The index of the active era at a block. -/
def activeEraIndex (api : Api σ) (block : UInt64) : Action σ Interruption UInt32 := do
  let s ← BlockStorage.atBlock api block
  match ← s.activeEra with
  | some era => return era.index
  | none => throw (Rpc.undecodable ("no active era at block " ++ toString block.toNat))

/-- Run readings side by side, each up to its end. The first one that fails ends them all;
one that hangs lets the others go on, but keeps their results back. -/
def sideBySide {α β : Type} (read : α → Action σ Interruption β) :
    List α → Action σ Interruption (List β)
  | [] => pure []
  | a :: rest => fun s =>
    match read a s with
    | (.error .hung, s) =>
      match sideBySide read rest s with
      | (.error e, s) => (.error e, s)
      | (.ok _, s) => (.error .hung, s)
    | (.error e, s) => (.error e, s)
    | (.ok b, s) =>
      match sideBySide read rest s with
      | (.error e, s) => (.error e, s)
      | (.ok bs, s) => (.ok (b :: bs), s)

/-- The validators that stashes nominate at a block. -/
def validatorsInfo (api : Api σ) (stashes : List StashLedger) (format : UInt16) (block : UInt64) :
    Action σ Interruption (List ValidatorsInfo) := do
  let s ← BlockStorage.atBlock api block
  sideBySide (fun l => s.nominated l format) stashes

end Relay
end StakingIndexer
