import StakingIndexer.Document.Basic
import StakingIndexer.Event
import StakingIndexer.Ledger

/-!
# Documents of ledgers, events and reports
-/

namespace StakingIndexer
namespace Document

def status (s : LedgerStatus) : Json := .nat s.code

def readStatus : Read LedgerStatus := fun j => (readNat j).bind LedgerStatus.ofCode?

def getStatus : Json → String → Option LedgerStatus := get readStatus .unbonded

def ledgerRecord (r : LedgerRecord) : Json :=
  .object ([("ledger", address r.ledger), ("status", status r.status)]
    ++ amountField "active_balance" r.activeBalance
    ++ amountField "cached_total_balance" r.cachedTotalBalance
    ++ amountField "locked_balance" r.lockedBalance
    ++ amountField "total_balance" r.totalBalance
    ++ amountField "transfer_downward_balance" r.transferDownwardBalance
    ++ amountField "transfer_upward_balance" r.transferUpwardBalance
    ++ amountField "stake" r.stake
    ++ amountField "borrow" r.borrow
    ++ amountField "xctoken_balance" r.xctokenBalance)

def readLedgerRecord : Read LedgerRecord := fun j => do
  return {
    ledger := ← getAddress j "ledger"
    status := ← getStatus j "status"
    activeBalance := ← getAmount j "active_balance"
    cachedTotalBalance := ← getAmount j "cached_total_balance"
    lockedBalance := ← getAmount j "locked_balance"
    totalBalance := ← getAmount j "total_balance"
    transferDownwardBalance := ← getAmount j "transfer_downward_balance"
    transferUpwardBalance := ← getAmount j "transfer_upward_balance"
    stake := ← getAmount j "stake"
    borrow := ← getAmount j "borrow"
    xctokenBalance := ← getAmount j "xctoken_balance" }

def relayLedgerRecord (r : RelayLedgerRecord) : Json :=
  .object ([("ledger", address r.ledger), ("stake_status", status r.stakeStatus)]
    ++ textField "stash" r.stash
    ++ amountField "active_balance" r.activeBalance
    ++ amountField "total_balance" r.totalBalance
    ++ amountField "stash_balance" r.stashBalance
    ++ wordField "validators_count" r.validatorsCount
    ++ amountField "total_unlocking_balance" r.totalUnlockingBalance
    ++ wordField "earliest_era_for_unlocking" r.earliestEraForUnlocking)

def readRelayLedgerRecord : Read RelayLedgerRecord := fun j => do
  return {
    ledger := ← getAddress j "ledger"
    stash := ← getText j "stash"
    stakeStatus := ← getStatus j "stake_status"
    activeBalance := ← getAmount j "active_balance"
    totalBalance := ← getAmount j "total_balance"
    stashBalance := ← getAmount j "stash_balance"
    validatorsCount := ← getWord j "validators_count"
    totalUnlockingBalance := ← getAmount j "total_unlocking_balance"
    earliestEraForUnlocking := ← getWord j "earliest_era_for_unlocking" }

def validatorsInfo (v : ValidatorsInfo) : Json :=
  .object ([("ledger", address v.ledger)]
    ++ textField "stash" v.stash
    ++ amountField "active_stake" v.activeStake
    ++ listField "validators" text v.validators)

def readValidatorsInfo : Read ValidatorsInfo := fun j => do
  return {
    ledger := ← getAddress j "ledger"
    stash := ← getText j "stash"
    activeStake := ← getAmount j "active_stake"
    validators := ← getList readText j "validators" }

def rewardRow (r : RewardRow) : Json :=
  .object [("ledger", address r.ledger), ("reward", signed r.reward),
    ("balance", amount r.balance), ("block_number", word r.block)]

def readRewardRow : Read RewardRow := fun j => do
  return {
    ledger := ← getAddress j "ledger"
    reward := ← get readSigned .zero j "reward"
    balance := ← getAmount j "balance"
    block := ← getWord j "block_number" }

/-- The name of a kind of event and the fields of its payload. -/
def payload : EventPayload → Fields
  | .transfer sender receiver value =>
    [("type", text "transfer"), ("from", address sender), ("to", address receiver),
      ("value", amount value)]
  | .deposited sender value =>
    [("type", text "deposited"), ("sender", address sender), ("amount", amount value)]
  | .redeemed receiver value =>
    [("type", text "redeemed"), ("receiver", address receiver), ("amount", amount value)]
  | .rewards ledger value balance =>
    [("type", text "rewards"), ("ledger", address ledger), ("rewards", amount value),
      ("balance", amount balance)]
  | .losses ledger value balance =>
    [("type", text "losses"), ("ledger", address ledger), ("losses", amount value),
      ("balance", amount balance)]

def event (e : Event) : Json :=
  .object (payload e.payload ++ [("block", word e.block), ("index", word e.index)])

def readPayload (j : Json) : Option EventPayload := do
  match ← getText j "type" with
  | "transfer" =>
    return .transfer (← getAddress j "from") (← getAddress j "to") (← getAmount j "value")
  | "deposited" => return .deposited (← getAddress j "sender") (← getAmount j "amount")
  | "redeemed" => return .redeemed (← getAddress j "receiver") (← getAmount j "amount")
  | "rewards" =>
    return .rewards (← getAddress j "ledger") (← getAmount j "rewards") (← getAmount j "balance")
  | "losses" =>
    return .losses (← getAddress j "ledger") (← getAmount j "losses") (← getAmount j "balance")
  | _ => none

def readEvent : Read Event := fun j => do
  return { block := ← getWord j "block", index := ← getWord j "index", payload := ← readPayload j }

end Document
end StakingIndexer
