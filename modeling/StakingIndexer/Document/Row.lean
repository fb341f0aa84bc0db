import StakingIndexer.Database.Row
import StakingIndexer.Document.Basic
import StakingIndexer.Text.Invisible

/-!
# Documents of rows

A row is read over another one, from which it takes the columns that the document does
not give. How its decimals are read is chosen where it is read.
-/

namespace StakingIndexer
namespace Document

def numeric : Numeric → Json
  | .decimal d => text d.toText
  | .special => text "NaN"

/-- A decimal as text or as a number. -/
def readNumeric : Read Numeric := fun j => do
  let s ← match j with
    | .number digits => some digits
    | .string s => some s
    | _ => none
  match Decimal.parse? s with
  | some d => return .decimal d
  | none =>
    if ["nan", "infinity", "-infinity", "inf", "-inf"].contains (s.map Char.toLower) then
      return .special
    else none

/-- A decimal without exponent, as tables keep it. -/
def readStoredNumeric : Read Numeric := fun j =>
  (readNumeric j).map fun
    | .decimal d => .decimal d.normalize
    | .special => .special

def readBigint : Read Int64 := fun j => (readInteger j).map Int64.ofInt

/-- A float as a number, as digits or by its name. -/
def readDouble : Read Float
  | .string s => Decimal.readFloat? s
  | j => readFloat j

/-- The text of an item, read backwards; blanks behind an item without quotes do not count. -/
def arrayItem (item : List Char) (wasQuoted : Bool) : String :=
  String.ofList (if wasQuoted then item else item.dropWhile Text.isBlank).reverse

/-- The items of an array's text, behind the part of an item that has been read. A character
behind a backslash, and every one within quotes, stands for itself; blanks around an item
do not count. -/
def arrayItems (item : List Char) (quoted wasQuoted : Bool) : List Char → List String
  | [] => [arrayItem item wasQuoted]
  | '\\' :: c :: cs => arrayItems (c :: item) quoted wasQuoted cs
  | c :: cs =>
    if c = '"' then arrayItems item (!quoted) true cs
    else if quoted then arrayItems (c :: item) true wasQuoted cs
    else if c = ',' then arrayItem item wasQuoted :: arrayItems [] false false cs
    else if Text.isBlank c && (item.isEmpty || wasQuoted) then arrayItems item false wasQuoted cs
    else arrayItems (c :: item) false wasQuoted cs

/-- A list of texts, as a list or as the text of an array: `\x7ba,"b c"\x7d`. -/
def readTexts : Read (List String)
  | .string s =>
    match s.toList with
    | '\x7b' :: cs =>
      let body := cs.dropLast
      if body.all Text.isBlank then some [] else some (arrayItems [] false false body)
    | _ => none
  | j => readList readText j

/-- A column that is given, or the value of the other row. -/
def column {α : Type} (read : Read α) (j : Json) (name : String) (old : α) : Option α :=
  get read old j name

/-- A column that may be null. -/
def nullable {α : Type} (read : Read α) (j : Json) (name : String) (old : Option α) :
    Option (Option α) :=
  match j.field? name with
  | none => some old
  | some .null => some none
  | some v => (read v).map some

def cursorRow (r : CursorRow) : Json :=
  .object [("chain", text r.chain), ("target", text r.target), ("block", int64 r.block),
    ("at", .int r.advancedAt)]

def readCursorRow (old : CursorRow) : Read CursorRow := fun j => do
  return {
    chain := ← column readText j "chain" old.chain
    target := ← column readText j "target" old.target
    block := ← column readBigint j "last_processed_block" (← column readBigint j "block" old.block)
    advancedAt := ← column readInteger j "at" old.advancedAt }

def readAggregateRow (decimal : Read Numeric) (old : AggregateRow) :
    Read AggregateRow := fun j => do
  let numeric := column decimal j
  let bigint := column readBigint j
  let double := column readDouble j
  return {
    chain := ← column readText j "chain" old.chain
    totalSupply := ← numeric "total_supply" old.totalSupply
    totalSupplyUsd := ← nullable readDouble j "total_supply_usd" old.totalSupplyUsd
    contractBufferedDeposits :=
      ← numeric "contract_buffered_deposits" old.contractBufferedDeposits
    contractBufferedRedeems := ← numeric "contract_buffered_redeems" old.contractBufferedRedeems
    eraId := ← nullable readBigint j "era_id" old.eraId
    currentEraId := ← nullable readBigint j "current_era_id" old.currentEraId
    nextEraStartTime := ← nullable readBigint j "next_era_start_time" old.nextEraStartTime
    relayActiveEraId := ← nullable readBigint j "relay_active_era_id" old.relayActiveEraId
    relayNextEraStartTime :=
      ← nullable readBigint j "relay_next_era_start_time" old.relayNextEraStartTime
    relayValidatorsCount :=
      ← nullable readBigint j "relay_validators_count" old.relayValidatorsCount
    relayTotalStaked := ← numeric "relay_total_staked" old.relayTotalStaked
    relayTotalIssuance := ← numeric "relay_total_issuance" old.relayTotalIssuance
    aprPerMonth := ← double "apr_per_month" old.aprPerMonth
    aprPerWeek := ← double "apr_per_week" old.aprPerWeek
    inflationRate := ← double "inflation_rate" old.inflationRate
    estimatedApy := ← double "estimated_apy" old.estimatedApy
    bufferedDeposits := ← numeric "buffered_deposits" old.bufferedDeposits
    bufferedRedeems := ← numeric "buffered_redeems" old.bufferedRedeems
    deposited := ← numeric "deposited" old.deposited
    redeemed := ← numeric "redeemed" old.redeemed
    depositedCount := ← bigint "deposited_count" old.depositedCount
    redeemedCount := ← bigint "redeemed_count" old.redeemedCount
    rewardsAggregated := ← numeric "rewards_aggregated" old.rewardsAggregated
    lossesAggregated := ← numeric "losses_aggregated" old.lossesAggregated
    holdersNumber := ← bigint "holders_number" old.holdersNumber
    lastBlockWithEvents := ← nullable readBigint j "last_block_with_events" old.lastBlockWithEvents
    apr := ← double "apr" old.apr }

def aggregateColumns (c : AggregateColumns) : Json :=
  .object (optionField "total_supply" numeric c.totalSupply
    ++ optionField "total_supply_usd" float c.totalSupplyUsd
    ++ optionField "era_id" int64 c.eraId
    ++ optionField "current_era_id" int64 c.currentEraId
    ++ optionField "next_era_start_time" int64 c.nextEraStartTime
    ++ optionField "relay_active_era_id" int64 c.relayActiveEraId
    ++ optionField "relay_next_era_start_time" int64 c.relayNextEraStartTime
    ++ optionField "relay_validators_count" int64 c.relayValidatorsCount
    ++ optionField "relay_total_staked" numeric c.relayTotalStaked
    ++ optionField "relay_total_issuance" numeric c.relayTotalIssuance
    ++ optionField "apr_per_month" float c.aprPerMonth
    ++ optionField "apr_per_week" float c.aprPerWeek
    ++ optionField "inflation_rate" float c.inflationRate
    ++ optionField "estimated_apy" float c.estimatedApy
    ++ optionField "contract_buffered_deposits" numeric c.contractBufferedDeposits
    ++ optionField "contract_buffered_redeems" numeric c.contractBufferedRedeems
    ++ optionField "holders_number" int64 c.holdersNumber
    ++ optionField "last_block_with_events" int64 c.lastBlockWithEvents
    ++ optionField "apr" float c.apr)

def readHolderRow (decimal : Read Numeric) (old : HolderRow) : Read HolderRow := fun j => do
  return {
    chain := ← column readText j "chain" old.chain
    address := ← column readText j "address" old.address
    balance := ← column decimal j "balance" old.balance }

def reportRow (r : ReportRow) : Json :=
  .object [("ledger", text r.ledger), ("reward", numeric r.reward), ("balance", numeric r.balance),
    ("block_number", int64 r.block)]

def readReportRow (decimal : Read Numeric) (old : ReportRow) : Read ReportRow := fun j => do
  return {
    number := ← column readNat j "id" old.number
    ledger := ← column readText j "ledger" old.ledger
    reward := ← column decimal j "reward" old.reward
    balance := ← column decimal j "balance" old.balance
    block := ← column readBigint j "block_number" old.block }

def ledgerRow (r : LedgerRow) : Json :=
  .object [("ledger", text r.ledger), ("active_balance", numeric r.activeBalance),
    ("cached_total_balance", numeric r.cachedTotalBalance),
    ("locked_balance", numeric r.lockedBalance), ("status", .int r.status),
    ("total_balance", numeric r.totalBalance),
    ("transfer_downward_balance", numeric r.transferDownwardBalance),
    ("transfer_upward_balance", numeric r.transferUpwardBalance), ("stake", numeric r.stake),
    ("borrow", numeric r.borrow), ("xctoken_balance", numeric r.xctokenBalance)]

def readLedgerRow (decimal : Read Numeric) (old : LedgerRow) : Read LedgerRow := fun j => do
  let numeric := column decimal j
  return {
    ledger := ← column readText j "ledger" old.ledger
    activeBalance := ← numeric "active_balance" old.activeBalance
    cachedTotalBalance := ← numeric "cached_total_balance" old.cachedTotalBalance
    lockedBalance := ← numeric "locked_balance" old.lockedBalance
    status := ← column readInteger j "status" old.status
    totalBalance := ← numeric "total_balance" old.totalBalance
    transferDownwardBalance := ← numeric "transfer_downward_balance" old.transferDownwardBalance
    transferUpwardBalance := ← numeric "transfer_upward_balance" old.transferUpwardBalance
    stake := ← numeric "stake" old.stake
    borrow := ← numeric "borrow" old.borrow
    xctokenBalance := ← numeric "xctoken_balance" old.xctokenBalance }

def relayLedgerRow (r : RelayLedgerRow) : Json :=
  .object [("ledger", text r.ledger), ("stash", text r.stash),
    ("active_balance", numeric r.activeBalance), ("total_balance", numeric r.totalBalance),
    ("stash_balance", numeric r.stashBalance), ("stake_status", .int r.stakeStatus),
    ("validators_count", int64 r.validatorsCount),
    ("total_unlocking_balance", numeric r.totalUnlockingBalance),
    ("earliest_era_for_unlocking", int64 r.earliestEraForUnlocking)]

def readRelayLedgerRow (decimal : Read Numeric) (old : RelayLedgerRow) :
    Read RelayLedgerRow := fun j => do
  let numeric := column decimal j
  let bigint := column readBigint j
  return {
    ledger := ← column readText j "ledger" old.ledger
    stash := ← column readText j "stash" old.stash
    activeBalance := ← numeric "active_balance" old.activeBalance
    totalBalance := ← numeric "total_balance" old.totalBalance
    stashBalance := ← numeric "stash_balance" old.stashBalance
    stakeStatus := ← column readInteger j "stake_status" old.stakeStatus
    validatorsCount := ← bigint "validators_count" old.validatorsCount
    totalUnlockingBalance := ← numeric "total_unlocking_balance" old.totalUnlockingBalance
    earliestEraForUnlocking := ← bigint "earliest_era_for_unlocking" old.earliestEraForUnlocking }

def validatorsRow (r : ValidatorsRow) : Json :=
  .object [("ledger", text r.ledger), ("stash", text r.stash),
    ("active_stake", numeric r.activeStake), ("validators", .array (r.validators.map text))]

def readValidatorsRow (decimal : Read Numeric) (old : ValidatorsRow) :
    Read ValidatorsRow := fun j => do
  return {
    ledger := ← column readText j "ledger" old.ledger
    stash := ← column readText j "stash" old.stash
    activeStake := ← column decimal j "active_stake" old.activeStake
    validators := ← column readTexts j "validators" old.validators }

end Document
end StakingIndexer
