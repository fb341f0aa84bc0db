import StakingIndexer.Contract.Client
import StakingIndexer.Ledger

/-!
# Snapshots of the contracts

The state of the pool, its ledgers, its oracles and its withdrawals at one block, and the
stashes of the ledgers. The calls are made one after another, and the first that fails
ends the snapshot.
-/

namespace StakingIndexer
namespace Contract

/-- How the oracles count eras: from an anchor, whose time is a unix time, up to the era by
the clock and the one that was last reported. -/
structure OracleEra where
  anchorEraId : UInt64
  anchorTimestamp : UInt64
  secondsPerEra : UInt64
  currentEraId : UInt64
  eraId : UInt64
deriving DecidableEq, Inhabited

/-- The state of the withdrawals. -/
structure WithdrawalSnapshot where
  tokens : Amount
  pendingForClaiming : Amount
  totalVirtualXctokenAmount : Amount
  totalXctokenPoolShares : Amount
deriving DecidableEq, Inhabited

/-- The state of the contracts at one block. `nimbusTokens` are the shares that the pool
itself holds, and the oracles' balances are native. -/
structure Snapshot where
  totalSupply : Amount
  nimbusTokens : Amount
  bufferedDeposits : Amount
  bufferedRedeems : Amount
  ledgers : List LedgerRecord
  oracleBalances : List (Address × Amount)
  oracleEra : OracleEra
  controllerBalance : Amount
  withdrawal : WithdrawalSnapshot
deriving DecidableEq, Inhabited

/-- The contracts as seen from a block. -/
structure View (σ : Type) where
  api : Api σ
  addresses : ContractAddresses
  block : UInt64

namespace View

variable {σ α : Type}

def call (v : View σ) (read : Bytes → Option α) (contract : Address) (signature : String)
    (arguments : List Bytes := []) : Action σ Interruption α :=
  Contract.call v.api read contract signature arguments v.block

def amount (v : View σ) (contract : Address) (signature : String) (arguments : List Bytes := []) :
    Action σ Interruption Amount :=
  v.call Abi.readAmount contract signature arguments

/-- The balance of an account in a token. -/
def tokenBalance (v : View σ) (token account : Address) : Action σ Interruption Amount :=
  v.amount token "balanceOf(address)" [Abi.addressWord account]

/-- The status of a ledger from the number that its contract shows. -/
def status (ledger : Address) (code : UInt8) : Except Interruption LedgerStatus :=
  match LedgerStatus.ofCode? code.toNat with
  | some s => .ok s
  | none => .error (Rpc.undecodable ("ledger " ++ ledger.toChecksum ++ " has unknown status "
      ++ toString code.toNat))

def ledgerRecord (v : View σ) (ledger : Address) : Action σ Interruption LedgerRecord := do
  let code ← v.call Abi.readUInt8 ledger "status()"
  let status ← MonadExcept.ofExcept (status ledger code)
  let activeBalance ← v.amount ledger "activeBalance()"
  let cachedTotalBalance ← v.amount ledger "cachedTotalBalance()"
  let lockedBalance ← v.amount ledger "lockedBalance()"
  let totalBalance ← v.amount ledger "totalBalance()"
  let transferDownwardBalance ← v.amount ledger "transferDownwardBalance()"
  let transferUpwardBalance ← v.amount ledger "transferUpwardBalance()"
  let nimbus := v.addresses.nimbus
  let stake ← v.amount nimbus "ledgerStake(address)" [Abi.addressWord ledger]
  let borrow ← v.amount nimbus "ledgerBorrow(address)" [Abi.addressWord ledger]
  let xctokenBalance ← v.tokenBalance v.addresses.xctoken ledger
  return {
    ledger, activeBalance, cachedTotalBalance, lockedBalance, status, totalBalance,
    transferDownwardBalance, transferUpwardBalance, stake, borrow, xctokenBalance }

/-- The oracles from an index on and their balances, up to the first index that the contract
refuses, at most `left` of them. -/
def oracleBalancesFrom (v : View σ) :
    (left index : Nat) → Action σ Interruption (List (Address × Amount))
  | 0, _ => pure []
  | left + 1, index => do
    match ← Contract.tryCall v.api Abi.readAddress v.addresses.oracleMaster "members(uint256)"
        [Abi.word index] v.block with
    | none => return []
    | some member =>
      let balance ← Contract.balance v.api member v.block
      let others ← oracleBalancesFrom v left (index + 1)
      return (member, balance) :: others

/-- The oracles and their balances. -/
def oracleBalances (v : View σ) : Action σ Interruption (List (Address × Amount)) := do
  let limit ← v.amount v.addresses.oracleMaster "MAX_MEMBERS()"
  v.oracleBalancesFrom limit.toUInt64Sat.toNat 0

def oracleEra (v : View σ) : Action σ Interruption OracleEra := do
  let read (signature : String) := v.call Abi.readUInt64 v.addresses.oracleMaster signature
  let anchorEraId ← read "ANCHOR_ERA_ID()"
  let anchorTimestamp ← read "ANCHOR_TIMESTAMP()"
  let secondsPerEra ← read "SECONDS_PER_ERA()"
  let currentEraId ← read "getCurrentEraId()"
  let eraId ← read "eraId()"
  return { anchorEraId, anchorTimestamp, secondsPerEra, currentEraId, eraId }

def withdrawalSnapshot (v : View σ) : Action σ Interruption WithdrawalSnapshot := do
  let withdrawal := v.addresses.withdrawal
  let tokens ← v.tokenBalance v.addresses.xctoken withdrawal
  let pendingForClaiming ← v.amount withdrawal "pendingForClaiming()"
  let totalVirtualXctokenAmount ← v.amount withdrawal "totalVirtualXcTokenAmount()"
  let totalXctokenPoolShares ← v.amount withdrawal "totalXcTokenPoolShares()"
  return { tokens, pendingForClaiming, totalVirtualXctokenAmount, totalXctokenPoolShares }

def snapshot (v : View σ) : Action σ Interruption Snapshot := do
  let nimbus := v.addresses.nimbus
  let totalSupply ← v.amount nimbus "totalSupply()"
  let nimbusTokens ← v.tokenBalance nimbus nimbus
  let bufferedDeposits ← v.amount nimbus "bufferedDeposits()"
  let bufferedRedeems ← v.amount nimbus "bufferedRedeems()"
  let addresses ← v.call Abi.readAddresses nimbus "getLedgerAddresses()"
  let ledgers ← addresses.mapM v.ledgerRecord
  let oracleBalances ← v.oracleBalances
  let oracleEra ← v.oracleEra
  let controllerBalance ← v.tokenBalance v.addresses.xctoken v.addresses.controller
  let withdrawal ← v.withdrawalSnapshot
  return {
    totalSupply, nimbusTokens, bufferedDeposits, bufferedRedeems, ledgers, oracleBalances,
    oracleEra, controllerBalance, withdrawal }

end View

/-- The contract that lists the stashes. -/
inductive StashSource where
  | oracleMaster
  | nimbus
deriving DecidableEq

namespace StashSource

def contract (a : ContractAddresses) : StashSource → Address
  | oracleMaster => a.oracleMaster
  | nimbus => a.nimbus

end StashSource

namespace View

variable {σ : Type}

/-- The ledger that the pool has for a stash. -/
def findLedger (v : View σ) (stash : Bytes) : Action σ Interruption StashLedger := do
  let ledger ← v.call Abi.readAddress v.addresses.nimbus "findLedger(bytes32)" [stash]
  return ⟨.ofNat (Bytes.toNatBE stash), ledger⟩

/-- The stashes that a contract lists, in order, and their ledgers. -/
def stashLedgers (v : View σ) (source : StashSource) :
    Action σ Interruption (List StashLedger) := do
  let stashes ← v.call Abi.readWords (source.contract v.addresses) "getStashAccounts()"
  stashes.mapM v.findLedger

end View
end Contract
end StakingIndexer
