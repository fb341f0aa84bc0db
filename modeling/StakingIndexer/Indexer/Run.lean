import StakingIndexer.Indexer.Setup

/-!
# Running an indexer

Each loop runs until it settles: it has caught up with its chain, waits behind a window
or a failure, or could not start. What the loops share is handed from one to the next.
-/

namespace StakingIndexer

namespace BlockScanner

/-- Whether a loop rests behind a pass. -/
def Pass.isSettled (p : Pass) : Bool :=
  match p.outcome with
  | .ok .upToDate | .ok .cancelled | .ok .aborted => true
  | _ => p.pause ≠ 0

/-- Pass after pass until the loop rests, at most `passes` times. -/
def settle {ω : Type} (l : ScanLoop ω) : (passes : Nat) → BlockScanner → ω → ω
  | 0, _, w => w
  | passes + 1, b, w =>
    let (p, b, w) := pass l b w
    if p.isSettled then w else settle l passes b w

end BlockScanner

/-- What lies around an indexer: nodes and a database behind their urls, and the day. -/
structure Surroundings where
  parachainUrl : String
  parachain : ParachainNode
  relayUrl : String
  relay : RelayNode
  databaseUrl : String
  database : Database
  today : Date

namespace Surroundings

/-- Whether the database of a url answers. -/
def databaseAnswers (s : Surroundings) (url : String) : Bool :=
  s.database.reachable && url = s.databaseUrl

end Surroundings

namespace Indexer

/-- Everything that the loops share at their start, the gauges of the pools included. Urls that
lead nowhere refuse connections. -/
def shared (i : Indexer) (s : Surroundings) : LocalNodes Database where
  parachain := s.parachain
  relay := s.relay
  parachainReader := i.parachainReader
  relayReader := i.relayReader
  refused := (i.parachainReader.pool.urls ++ i.relayReader.pool.urls).filter fun url =>
    url ≠ s.parachainUrl ∧ url ≠ s.relayUrl
  hanging := []
  store := s.database
  publisher := i.relayReader.pool.publishTo (i.parachainReader.pool.publishTo (.new ""))
  eraStart := none

/-- How the price of the day is looked up. It is unknown where its database does not answer. -/
def price (i : Indexer) (answers : Bool) (today : Date) :
    Option (LocalNodes Database → Option Float) :=
  i.priced.map fun symbol w => if answers then w.store.lookupPrice symbol today else none

/-- How many passes a loop may take until it rests. -/
def passLimit : Nat := 1000000

/-- Run one loop; the error is the one with which it could not start. -/
def runLoop (l : ScanLoop (LocalNodes Database)) (w : LocalNodes Database) :
    Option ScanError × LocalNodes Database :=
  match BlockScanner.new l w with
  | (.error e, w) => (some e, w)
  | (.ok b, w) => (none, BlockScanner.settle l passLimit b w)

/-- Run the loops of all targets in turn. -/
def runLoops (i : Indexer) (price : Option (LocalNodes Database → Option Float))
    (w : LocalNodes Database) : List (Option ScanError) × LocalNodes Database :=
  TargetId.all.foldl (fun (ends, w) id =>
    let (ending, w) :=
      runLoop (LocalNodes.scanLoop Database.store i.settings price i.scannerConfig id) w
    (ends ++ [ending], w)) ([], w)

/-- The gauges that the loops and the pools have published. -/
def gauges (w : LocalNodes Database) : GaugeTable := w.publisher.gauges

end Indexer
end StakingIndexer
