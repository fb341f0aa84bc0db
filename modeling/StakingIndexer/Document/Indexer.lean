import StakingIndexer.Document.Configuration
import StakingIndexer.Document.Database
import StakingIndexer.Document.Node
import StakingIndexer.Document.Snapshot
import StakingIndexer.Indexer.Run

/-!
# Documents of indexers

What surrounds an indexer is read, and what its loops leave behind is written.
-/

namespace StakingIndexer
namespace Document

def setupErrorKind : SetupError → String
  | .configuration _ => "Config"
  | .database _ => "Db"
  | .endpointPool _ => "EndpointPool"
  | .address _ => "Address"

def setupError (e : SetupError) : Json := failure (setupErrorKind e) (some e.message)

/-- The texts that stand for urls in arguments. -/
def replaceUrls (s : Surroundings) (argument : String) : String :=
  ((argument.replace "\x7bpara\x7d" s.parachainUrl).replace "\x7brelay\x7d" s.relayUrl).replace
    "\x7bdb\x7d" s.databaseUrl

/-- The table of prices with the price of the day, with no price, or none. -/
def readPriceTables (symbol : String) (today : Date) (j : Json) : Option (List PriceTable) := do
  let symbol := symbol.map Char.toLower
  match j.field? "price" with
  | none => return []
  | some .null => return [⟨symbol, []⟩]
  | some p => return [⟨symbol, [(today.toText, ← readStoredPrice p)]⟩]

/-- The surroundings that a document describes, without the logs that depend on a contract. -/
def readSurroundings (j : Json) : Option (Address → Option Surroundings) := do
  let today : Date := ⟨2024, 6, 1⟩
  let reachable := !(← get readBool false j "down")
  let symbol ← get readText "ksm" j "price_symbol"
  let start : Database :=
    { tables := .empty, prices := ← readPriceTables symbol today j, reachable }
  let database ← (← getList some j "setup").foldlM (fun d step => do
    return (← databaseStep step d).2) start
  let relay ← readRelayNode ((j.field? "relay").getD .null)
  return fun nimbus => do
    return {
      parachainUrl := "ws://127.0.0.1:8001"
      parachain := ← readParachainNode nimbus ((j.field? "parachain").getD .null)
      relayUrl := "ws://127.0.0.1:8002"
      relay
      databaseUrl := "db://127.0.0.1:8003"
      database
      today }

/-- How a loop ended. A failed query is shown without the text of the database. -/
def loopEnd : Option ScanError → Json
  | none => text "stopped"
  | some e =>
    let j := scanError e
    match e, j with
    | .store (.database (.query _)), .object fields => .object (fields.filter (·.1 ≠ "message"))
    | _, j => j

/-- The ends of loops in the order of their text. -/
def loopEnds (ends : List (Option ScanError)) : Json :=
  let texts := ends.map fun e => let j := (loopEnd e).sortFields; (j.render, j)
  .array ((texts.mergeSort fun a b => !(b.1 < a.1)).map (·.2))

/-- The answer to a command, written by `write`. -/
def asked (d : Database) (c : DatabaseCommand) (write : DatabaseAnswer → Json) : Json :=
  outcome (commandError c) write (Database.execute c d).1

/-- Everything that is stored. -/
def stored (d : Database) : Json :=
  let state (chain : Chain) : String × Json :=
    (chain.name, asked d (.checkpoint (.state chain)) fun
      | .checkpoint (.state s) => orNull aggregateState s
      | a => databaseAnswer a)
  let cursor (chain : Chain) (target : TargetId) : String × Json :=
    (target.name, asked d (.checkpoint (.cursor chain target)) fun
      | .checkpoint (.cursor c) => orNull (fun c => word c.block) c
      | a => databaseAnswer a)
  .object [state .parachain, state .relayChain,
    ("cursors", .object [cursor .parachain .events, cursor .parachain .parachainState,
      cursor .relayChain .relayState, cursor .relayChain .validatorsInfo]),
    ("validators_info", asked d .validators databaseAnswer),
    ("recent_rewards", asked d (.checkpoint (.recentRewards 1000)) fun
      | .checkpoint (.rewards rows) => .array (rows.map rewardRow)
      | a => databaseAnswer a)]

def payoutAccount (p : PayoutAccount) : Json :=
  .object [("account", account p.account), ("address", text p.address)]

def scannerConfig (c : ScannerConfig) : Json :=
  .object [("max_range", word c.maxRange), ("poll_interval_ms", .nat c.pollInterval),
    ("base_backoff_ms", .nat c.baseBackoff), ("max_backoff_ms", .nat c.maxBackoff)]

/-- Set up an indexer of a configuration, run its loops, and write what they leave behind. -/
def indexerRun (c : Configuration) (s : Surroundings) : Json :=
  match Indexer.ofConfiguration c s.databaseAnswers with
  | .error e => setupError e
  | .ok i =>
    let answers := (c.priceDatabaseUrl.map s.databaseAnswers).getD false
    let (ends, w) := i.runLoops (i.price answers s.today) (i.shared s)
    .object [("payout", orNull payoutAccount i.settings.payout),
      ("prices", .bool i.priced.isSome), ("constants", constants i.settings.constants),
      ("config", scannerConfig i.scannerConfig), ("loops", loopEnds ends),
      ("metrics", gaugeTable (Indexer.gauges w)), ("stored", stored w.store)]

/-- The answer to a document that describes arguments and surroundings. -/
def indexerAnswer (j : Json) : Option Json := do
  let surroundings ← readSurroundings j
  let arguments := (← getList readText j "args").map (replaceUrls (← surroundings .zero))
  match Configuration.ofArguments arguments fun _ => none with
  | .error e => return argumentError e
  | .ok c => return indexerRun c (← surroundings c.addresses.nimbus)

end Document
end StakingIndexer
