import StakingIndexer.Database.Command
import StakingIndexer.Document.Row
import StakingIndexer.Document.Store

/-!
# Documents of databases

Commands and their answers, and rows that are put into tables or edited in place.
-/

namespace StakingIndexer
namespace Document

def readDatabaseCommand : Read DatabaseCommand := fun j => do
  let chain ← getChain j "chain"
  match ← getText j "do" with
  | "validators_info" => return .validators
  | "ledgers" => return .ledgers
  | "relay_ledgers" => return .relayLedgers
  | "holders" => return .holders chain
  | "migrate" => return .migrate
  | "advance_cursor" => return .advanceCursor ⟨chain, ← getTarget j, ← getWord j "block", 0⟩
  | "ensure_row" => return .ensureAggregate chain
  | "overwrite" => return .overwriteAggregate chain (← getDelta j)
  | "increment" => return .incrementAggregate chain (← getDelta j).counters
  | "write_holders" => return .writeHolders chain (← getDelta j).holderBalances
  | "insert_reward_rows" => return .insertReports (← getDelta j).rewardRows
  | _ => (readCheckpointCommand j).map .checkpoint

/-- Records in the order of their ledgers. -/
def byLedger {α : Type} (ledger : α → Address) (write : α → Json) (l : List α) : Json :=
  .array ((l.mergeSort fun a b => ledger a ≤ ledger b).map write)

def databaseAnswer : DatabaseAnswer → Json
  | .checkpoint answer => checkpointAnswer answer
  | .validators infos => byLedger (·.ledger) validatorsInfo infos
  | .ledgers records => byLedger (·.ledger) ledgerRecord records
  | .relayLedgers records => byLedger (·.ledger) relayLedgerRecord records
  | .holders held => balances held
  | .moved moved => .object [("moved", .bool moved)]
  | .done => done

/-- The error of a statement; a store's error shows the database as its cause. -/
def commandError : DatabaseCommand → StoreError → Json
  | .checkpoint _, e => checkpointError e
  | _, .database e => databaseError e
  | _, e => storeError e

/-- Change every row of a table. -/
def editRows {ρ : Type} (read : ρ → Read ρ) (columns : Json) (rows : List ρ) : Option (List ρ) :=
  rows.mapM fun r => read r columns

/-- Append a row to a table, or set columns of all its rows. -/
def changeRows {ρ : Type} (read : ρ → Read ρ) (fresh : Option ρ) (columns : Json)
    (rows : List ρ) : Option (List ρ) :=
  match fresh with
  | some row => do return rows ++ [← read row columns]
  | none => editRows read columns rows

/-- Put a row into a table, where columns that are not given have their defaults, or set
columns of all rows of a table. -/
def changeTable (table : String) (put : Bool) (columns : Json) (t : Tables) : Option Tables := do
  let fresh {ρ : Type} (row : ρ) : Option ρ := if put then some row else none
  let decimal := readStoredNumeric
  match table with
  | "scan_cursors" =>
    return { t with cursors := ← changeRows readCursorRow (fresh ⟨"", "", 0, 0⟩) columns t.cursors }
  | "aggregates" =>
    let row : AggregateRow := { chain := "" }
    return { t with
      aggregates := ← changeRows (readAggregateRow decimal) (fresh row) columns t.aggregates }
  | "holders" =>
    let row : HolderRow := ⟨"", "", .zero⟩
    return { t with holders := ← changeRows (readHolderRow decimal) (fresh row) columns t.holders }
  | "rewards" =>
    let row : ReportRow := { (default : ReportRow) with number := t.nextReport }
    return { t with
      reports := ← changeRows (readReportRow decimal) (fresh row) columns t.reports
      nextReport := if put then t.nextReport + 1 else t.nextReport }
  | "ledgers" =>
    let row : LedgerRow := { ledger := "" }
    return { t with ledgers := ← changeRows (readLedgerRow decimal) (fresh row) columns t.ledgers }
  | "relay_ledgers" =>
    let row : RelayLedgerRow := { ledger := "" }
    return { t with
      relayLedgers := ← changeRows (readRelayLedgerRow decimal) (fresh row) columns t.relayLedgers }
  | "validators_info" =>
    let row : ValidatorsRow := { ledger := "" }
    return { t with
      validators := ← changeRows (readValidatorsRow decimal) (fresh row) columns t.validators }
  | _ => none

/-- Carry out what a document asks of a database. -/
def databaseStep (j : Json) (d : Database) : Option (Json × Database) := do
  let table ← getText j "table"
  let column ← getText j "column"
  match ← getText j "do" with
  | "put" =>
    return (done, { d with
      tables := ← changeTable table true ((j.field? "row").getD .null) d.tables })
  | "set" =>
    let columns := .object [(column, (j.field? "value").getD .null)]
    return (done, { d with tables := ← changeTable table false columns d.tables })
  | _ =>
    let command ← readDatabaseCommand j
    let (r, d) := Database.execute command d
    return (outcome (commandError command) databaseAnswer r, d)

/-- A stored price: a decimal, the name of a value without digits, or null. -/
def readStoredPrice : Read StoredPrice
  | .null => some .missing
  | .number digits => (Decimal.parse? digits).map .decimal
  | .string s =>
    match Decimal.parse? s with
    | some d => some (.decimal d)
    | none => (Decimal.readFloat? s).map .special
  | _ => none

/-- The prices of a token by the text of their days. -/
def readPrices : Read (List (String × StoredPrice)) := fun j => do
  (← j.fields?).mapM fun f => do return (f.1, ← readStoredPrice f.2)

/-- What is found out about the price of a day. -/
def priceAnswer (symbol : TokenSymbol) (d : Database) (date : Date) : Json :=
  .object [("read", outcome databaseError (fun p => .object [("price", orNull float p)])
      (d.price symbol date)),
    ("lookup", orNull float (d.lookupPrice symbol date))]

end Document
end StakingIndexer
