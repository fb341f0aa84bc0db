import StakingIndexer.Document.Basic
import StakingIndexer.Scan.Basic

/-!
# Documents of errors and gauges

An error is written with its kind and its text. The text is left out where it only says
that an answer of a node is not of the expected form.
-/

namespace StakingIndexer
namespace Document

/-- A kind of error, its text if it is shown, and further fields. -/
def failure (kind : String) (message : Option String) (more : Fields := []) : Json :=
  .object ([("error", text kind)] ++ optionField "message" text message ++ more)

/-- How an error is shown: its kind, whether its text is shown, and further fields. -/
structure ErrorForm where
  kind : String
  showsText : Bool := true
  more : Fields := []

namespace ErrorForm

def write (f : ErrorForm) (message : String) (more : Fields := []) : Json :=
  failure f.kind (if f.showsText then some message else none) (f.more ++ more)

/-- How the texts begin that say more than that an answer has an unexpected form. -/
def tellingTexts : List String :=
  ["unknown block ", "no block at height ", "no active era at block ", "invalid block number ",
    "node returned no finalized block", "log is missing its ", "log has no topics",
    "unknown Nimbus event topic ", "ledger 0x", "scripted "]

def decode (detail : String) : ErrorForm :=
  { kind := "Decode", showsText := tellingTexts.any (·.isPrefixOf detail) }

def rangeTooLarge (detail : String) : ErrorForm :=
  { kind := "RangeTooLarge", showsText := !"deserialization error".isPrefixOf detail }

def ofCall : CallError → ErrorForm
  | .transport _ => { kind := "Transport" }
  | .rangeTooLarge detail => rangeTooLarge detail
  | .decode detail => decode detail

def ofRead : ReadError → ErrorForm
  | .unavailable _ attempts _ timedOut =>
    { kind := "ChainUnavailable"
      more := [("attempts", .nat attempts), ("timed_out", .bool timedOut)] }
  | .rangeTooLarge _ detail => rangeTooLarge detail
  | .decode detail => decode detail

def ofAggregation : AggregationError → ErrorForm
  | .malformed _ => { kind := "Decode" }
  | .stale _ _ => { kind := "StaleEvent" }

/-- A failed query is shown without the text of the database. -/
def ofDatabase : DatabaseError → ErrorForm
  | .clientSetup _ => { kind := "ClientSetup" }
  | .poolConnection _ => { kind := "PoolConnection" }
  | .query _ => { kind := "Query", showsText := false }
  | .conversion _ => { kind := "Conversion" }
  | .migration _ => { kind := "Migration" }

def ofStore : StoreError → ErrorForm
  | .database _ => { kind := "Db" }
  | .conversion _ => { kind := "Conversion" }
  | .unavailable _ => { kind := "Unavailable" }

def ofPool : EndpointPoolError → ErrorForm
  | .exhausted _ => { kind := "Exhausted" }
  | .empty _ => { kind := "Empty" }

end ErrorForm

def callError (e : CallError) : Json := (ErrorForm.ofCall e).write e.message
def readError (e : ReadError) : Json := (ErrorForm.ofRead e).write e.message
def poolError (e : EndpointPoolError) : Json := (ErrorForm.ofPool e).write e.message
def aggregationError (e : AggregationError) : Json := (ErrorForm.ofAggregation e).write e.message
def databaseError (e : DatabaseError) : Json := (ErrorForm.ofDatabase e).write e.message
def storeError (e : StoreError) : Json := (ErrorForm.ofStore e).write e.message

/-- A store's error of which the part that the database wrote is shown apart. -/
def checkpointError : StoreError → Json
  | e@(.database cause) =>
    let form := ErrorForm.ofDatabase cause
    failure "Db" (if form.showsText then some e.message else none) [("db", text form.kind)]
  | e => storeError e

def recovery : Recovery → Json
  | .shrinkRange => text "ShrinkRange"
  | .shrinkRangeAndBackoff => text "ShrinkRangeAndBackoff"
  | .backoff => text "Backoff"

/-- An error of a scan loop with its source and the ways in which loops go on. -/
def scanError (e : ScanError) : Json :=
  let (form, source) := match e with
    | .chain cause => (ErrorForm.ofRead cause, "chain")
    | .aggregation cause => (ErrorForm.ofAggregation cause, "aggregation")
    | .store cause => (ErrorForm.ofStore cause, "store")
  form.write e.message
    [("source", text source),
      ("recovery", .object [("ranged", recovery (e.recovery .ranged)),
        ("snapshot", recovery (e.recovery .snapshot))])]

/-- The answer of a computation that may fail. -/
def outcome {ε α : Type} (error : ε → Json) (value : α → Json) : Except ε α → Json
  | .ok a => value a
  | .error e => error e

/-- The error of a scan loop that a description names. -/
def readScanError : Read ScanError := fun j => do
  let message ← getText j "message"
  let chain ← getChain j "chain"
  let database (e : DatabaseError) : Option ScanError := some (.store (.database e))
  match ← getText j "kind" with
  | "chain_unavailable" =>
    let timedOut ← get readBool false j "timed_out"
    return .chain (.unavailable chain (← getNat j "attempts") message timedOut)
  | "range_too_large" => return .chain (.rangeTooLarge chain message)
  | "chain_decode" => return .chain (.decode ("scripted " ++ message))
  | "aggregation_decode" => return .aggregation (.malformed message)
  | "stale_event" => return .aggregation (.stale (← getWord j "block") (← getWord j "last_applied"))
  | "store_db_client_setup" => database (.clientSetup message)
  | "store_db_pool" => database (.poolConnection message)
  | "store_db_query" => database (.query message)
  | "store_db_conversion" => database (.conversion message)
  | "store_db_migration" => database (.migration message)
  | "store_conversion" => return .store (.conversion message)
  | "store_unavailable" => return .store (.unavailable message)
  | _ => none

/-- Gauges by their keys. -/
def gaugeTable (t : GaugeTable) : Json := .object (t.map fun e => (e.1, float e.2))

def gauge (g : Gauge) : Json :=
  .object ([("name", text g.name), ("value", float g.value)]
    ++ (g.label.map fun l => [("label", text l.1), ("label_value", text l.2)]).getD [])

/-- A gauge with a value or an amount. -/
def readGauge : Read Gauge := fun j => do
  let value ← match given? j "amount" with
    | some a => (readAmount a).map Amount.toFloat
    | none => getFloat j "value"
  let label ← getOption readText j "label"
  let labelValue ← getText j "label_value"
  return ⟨← getText j "name", label.map fun l => (l, labelValue), value⟩

end Document
end StakingIndexer
