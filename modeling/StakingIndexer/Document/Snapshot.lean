import StakingIndexer.Contract.Snapshot
import StakingIndexer.Document.Ledger
import StakingIndexer.Relay.Snapshot

/-!
# Documents of snapshots and staking records

Snapshots are written with all of their fields.
-/

namespace StakingIndexer
namespace Document

def account (a : AccountId) : Json := .string a.toHex
def readAccount : Read AccountId := fun j => (readBytes j).bind AccountId.ofBytes?
def word32 (n : UInt32) : Json := .nat n.toNat
def readWord32 : Read UInt32 := fun j => (readNat j).map UInt32.ofNat
def getWord32 : Json → String → Option UInt32 := get readWord32 0
def balance (b : Balance) : Json := .string b.toDecimal

def readBalance : Read Balance := fun j =>
  (readInteger j).bind fun n => if 0 ≤ n then Balance.ofNat? n.toNat else none

def getBalance : Json → String → Option Balance := get readBalance .zero

def activeEra (e : ActiveEra) : Json :=
  .object [("index", word32 e.index), ("start", orNull word e.start)]

def readActiveEra : Read ActiveEra := fun j => do
  return ⟨← getWord32 j "index", ← getOption readWord j "start"⟩

def unlockingChunk (c : UnlockingChunk) : Json :=
  .object [("value", balance c.value), ("era", word32 c.era)]

def stakingLedger (l : StakingLedger) : Json :=
  .object [("stash", account l.stash), ("total", balance l.total), ("active", balance l.active),
    ("unlocking", .array (l.unlocking.map unlockingChunk)),
    ("total_unlocking", balance l.totalUnlocking),
    ("earliest_unlocking_era", word32 l.earliestUnlockingEra)]

def readStakingLedger : Read StakingLedger := fun j => do
  return {
    stash := ← get readAccount default j "stash"
    total := ← getBalance j "total"
    active := ← getBalance j "active"
    unlocking := ← getList (fun c => do return ⟨← getBalance c "value", ← getWord32 c "era"⟩) j
      "unlocking" }

def nominations (n : Nominations) : Json :=
  .object [("targets", .array (n.targets.map account)), ("submitted_in", word32 n.submittedIn),
    ("suppressed", .bool n.suppressed)]

def readNominations : Read Nominations := fun j => do
  return ⟨← getList readAccount j "targets", ← getWord32 j "submitted_in",
    ← get readBool false j "suppressed"⟩

def accountInfo (a : AccountInfo) : Json :=
  .object [("nonce", word32 a.nonce), ("consumers", word32 a.consumers),
    ("providers", word32 a.providers), ("sufficients", word32 a.sufficients),
    ("free", balance a.free), ("reserved", balance a.reserved), ("frozen", balance a.frozen),
    ("flags", balance a.flags)]

def readAccountInfo : Read AccountInfo := fun j => do
  return {
    nonce := ← getWord32 j "nonce"
    consumers := ← getWord32 j "consumers"
    providers := ← getWord32 j "providers"
    sufficients := ← getWord32 j "sufficients"
    free := ← getBalance j "free"
    reserved := ← getBalance j "reserved"
    frozen := ← getBalance j "frozen"
    flags := ← getBalance j "flags" }

def stashLedger (l : StashLedger) : Json :=
  .object [("stash", account l.stash), ("ledger", address l.ledger)]

def readStashLedger : Read StashLedger := fun j => do
  return ⟨← get readAccount default j "stash", ← getAddress j "ledger"⟩

def stakingSnapshot (s : Relay.StakingSnapshot) : Json :=
  .object [("block_number", word s.block), ("timestamp_secs", word s.timestamp),
    ("active_era", orNull activeEra s.activeEra), ("total_staked", amount s.totalStaked),
    ("total_issuance", amount s.totalIssuance), ("auction_counter", word32 s.auctions),
    ("session_validators", .array (s.sessionValidators.map account)),
    ("ledgers", .array (s.ledgers.map relayLedgerRecord)),
    ("payout_balance", orNull amount s.payoutBalance)]

def readStakingSnapshot : Read Relay.StakingSnapshot := fun j => do
  return {
    block := ← getWord j "block_number"
    timestamp := ← getWord j "timestamp_secs"
    activeEra := ← getOption readActiveEra j "active_era"
    totalStaked := ← getAmount j "total_staked"
    totalIssuance := ← getAmount j "total_issuance"
    auctions := ← getWord32 j "auction_counter"
    sessionValidators := ← getList readAccount j "session_validators"
    ledgers := ← getList readRelayLedgerRecord j "ledgers"
    payoutBalance := ← getOption readAmount j "payout_balance" }

def oracleEra (e : Contract.OracleEra) : Json :=
  .object [("anchor_era_id", word e.anchorEraId), ("anchor_timestamp", word e.anchorTimestamp),
    ("seconds_per_era", word e.secondsPerEra), ("current_era_id", word e.currentEraId),
    ("era_id", word e.eraId)]

def readOracleEra : Read Contract.OracleEra := fun j => do
  return {
    anchorEraId := ← getWord j "anchor_era_id"
    anchorTimestamp := ← getWord j "anchor_timestamp"
    secondsPerEra := ← getWord j "seconds_per_era"
    currentEraId := ← getWord j "current_era_id"
    eraId := ← getWord j "era_id" }

def withdrawalSnapshot (w : Contract.WithdrawalSnapshot) : Json :=
  .object [("tokens", amount w.tokens), ("pending_for_claiming", amount w.pendingForClaiming),
    ("total_virtual_xctoken_amount", amount w.totalVirtualXctokenAmount),
    ("total_xctoken_pool_shares", amount w.totalXctokenPoolShares)]

def readWithdrawalSnapshot : Read Contract.WithdrawalSnapshot := fun j => do
  return {
    tokens := ← getAmount j "tokens"
    pendingForClaiming := ← getAmount j "pending_for_claiming"
    totalVirtualXctokenAmount := ← getAmount j "total_virtual_xctoken_amount"
    totalXctokenPoolShares := ← getAmount j "total_xctoken_pool_shares" }

def contractSnapshot (s : Contract.Snapshot) : Json :=
  .object [("total_supply", amount s.totalSupply), ("nimbus_tokens", amount s.nimbusTokens),
    ("buffered_deposits", amount s.bufferedDeposits),
    ("buffered_redeems", amount s.bufferedRedeems),
    ("ledgers", .array (s.ledgers.map ledgerRecord)),
    ("oracle_balances", .array (s.oracleBalances.map fun e => .array [address e.1, amount e.2])),
    ("oracle_era", oracleEra s.oracleEra), ("controller_balance", amount s.controllerBalance),
    ("withdrawal", withdrawalSnapshot s.withdrawal)]

/-- An address and its amount as a list of two. -/
def readAddressAmount : Read (Address × Amount)
  | .array [a, b] => do return (← readAddress a, ← readAmount b)
  | _ => none

def readContractSnapshot : Read Contract.Snapshot := fun j => do
  return {
    totalSupply := ← getAmount j "total_supply"
    nimbusTokens := ← getAmount j "nimbus_tokens"
    bufferedDeposits := ← getAmount j "buffered_deposits"
    bufferedRedeems := ← getAmount j "buffered_redeems"
    ledgers := ← getList readLedgerRecord j "ledgers"
    oracleBalances := ← getList readAddressAmount j "oracle_balances"
    oracleEra := ← get readOracleEra default j "oracle_era"
    controllerBalance := ← getAmount j "controller_balance"
    withdrawal := ← get readWithdrawalSnapshot default j "withdrawal" }

end Document
end StakingIndexer
