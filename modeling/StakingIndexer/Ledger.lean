import StakingIndexer.Address
import StakingIndexer.Relay.Account

/-!
# Ledgers

A ledger is a contract that holds a share of the pool and stakes it through a stash
account of the relay chain. It is seen from both chains.
-/

namespace StakingIndexer

/-- What a ledger's stash does on the relay chain. An idle one is bonded, but neither
nominates nor validates. -/
inductive LedgerStatus where
  | idle
  | nominator
  | validator
  | unbonded
deriving DecidableEq

namespace LedgerStatus

instance : Inhabited LedgerStatus := ⟨unbonded⟩

/-- The number by which contracts and rows show the status. -/
def code : LedgerStatus → Nat
  | idle => 0
  | nominator => 1
  | validator => 2
  | unbonded => 3

def ofCode? : Nat → Option LedgerStatus
  | 0 => some idle
  | 1 => some nominator
  | 2 => some validator
  | 3 => some unbonded
  | _ => none

@[simp] theorem ofCode?_code (s : LedgerStatus) : ofCode? s.code = some s := by cases s <;> rfl

theorem code_of_ofCode? {n : Nat} {s : LedgerStatus} (h : ofCode? n = some s) : s.code = n := by
  unfold ofCode? at h
  split at h <;> cases h <;> rfl

end LedgerStatus

/-- A ledger as the contracts of the parachain show it. -/
structure LedgerRecord where
  ledger : Address
  activeBalance : Amount
  cachedTotalBalance : Amount
  lockedBalance : Amount
  status : LedgerStatus
  totalBalance : Amount
  transferDownwardBalance : Amount
  transferUpwardBalance : Amount
  stake : Amount
  borrow : Amount
  xctokenBalance : Amount
deriving DecidableEq, Inhabited

/-- A ledger as the staking pallet of the relay chain shows it. -/
structure RelayLedgerRecord where
  ledger : Address
  stash : String
  activeBalance : Amount
  totalBalance : Amount
  stashBalance : Amount
  stakeStatus : LedgerStatus
  validatorsCount : UInt64
  totalUnlockingBalance : Amount
  earliestEraForUnlocking : UInt64
deriving DecidableEq, Inhabited

/-- The validators that a ledger's stash nominates. -/
structure ValidatorsInfo where
  ledger : Address
  stash : String
  activeStake : Amount
  validators : List String
deriving DecidableEq, Inhabited

/-- A stash account of the relay chain and the ledger contract that controls it. -/
structure StashLedger where
  stash : AccountId
  ledger : Address
deriving DecidableEq, Inhabited

end StakingIndexer
