import StakingIndexer.Document.Error
import StakingIndexer.Document.Ledger
import StakingIndexer.Document.Store
import StakingIndexer.Endpoint.Command
import StakingIndexer.Reader.LocalChain
import StakingIndexer.Scan.LocalIndexer

/-!
# Documents of commands to pools and chains, and of scanners
-/

namespace StakingIndexer
namespace Document

def readPoolCommand : Read PoolCommand := fun j => do
  match ← getText j "do" with
  | "acquire" => return .acquire
  | "success" => return .report (← getNat j "id") .success
  | "failure" => return .report (← getNat j "id") .failure
  | "advance" => return .advance (← getNat j "ms")
  | "publish" => return .attachPublisher
  | _ => none

def endpoint (e : Endpoint) : Json :=
  .object [("id", .nat e.id), ("url", text e.url), ("chain", text e.chain.name)]

def poolAnswer : TimedPool.Answer → Json
  | some answer => outcome poolError endpoint answer
  | none => done

def readChainCommand : Read ChainCommand := fun j => do
  match ← getText j "do" with
  | "set_height" => return .setHeight (← getWord j "height")
  | "push_events" => return .pushEvents (← getList readEvent j "events")
  | "set_max_results" => return .setMaxResults (← getOption readNat j "n")
  | "fail_next_calls" => return .failNextCalls (← getNat j "n")
  | "set_hanging" => return .setHanging (← get readBool false j "hanging")
  | "requests" => return .requests
  | _ => none

def chainAnswer : Option (List BlockWindow) → Json
  | some windows => .object [("requests", .array (windows.map window))]
  | none => done

/-- A pool over the urls that a document gives. -/
def readPool (chain : Chain) (j : Json) : Option (Except EndpointPoolError EndpointPool) := do
  return EndpointPool.ofUrls chain (← get (readList readText) ["ws://a", "ws://b"] j "urls")
    (← getNat j "quarantine_ms" 60000)

def readReaderConfig : Read ReaderConfig := fun j => do
  return ⟨← getNat j "call_timeout_ms" 5000, ← getOption readNat j "max_attempts",
    ← getWord j "max_range" 2500⟩

def readLocalIndexer (j : Json) : Option (Except EndpointPoolError LocalIndexer) := do
  let config ← readReaderConfig j
  let refused ← getList readText j "refused"
  return (← readPool (← getChain j "chain") j).map fun pool => .new pool config refused

/-- Carry out what a document asks of the chain, the clock or the store. -/
def localStep (j : Json) (w : LocalIndexer) : Option (Json × LocalIndexer) := do
  if (← getText j "do") = "advance" then
    return (done, { w with clock := w.clock + (← getNat j "ms") })
  match readChainCommand j with
  | some command =>
    let (answer, chain) := w.chain.execute command
    return (chainAnswer answer, { w with chain })
  | none =>
    let (answer, store) := MemoryStore.execute (← readMemoryCommand j) w.store
    return (memoryAnswer answer, { w with store })

def phase : ScannerPhase → Json
  | .idle => text "Idle"
  | .failed => text "Failed"
  | .scanning w => .object [("Scanning", window w)]
  | .committing w => .object [("Committing", window w)]

def stepOutcome : StepOutcome → Json
  | .upToDate => text "UpToDate"
  | .cancelled => text "Cancelled"
  | .aborted => failure "panic" none
  | .committed w => .object [("Committed", window w)]
  | .alreadyApplied w => .object [("AlreadyApplied", window w)]

def position (b : BlockScanner) : Fields :=
  [("cursor", word b.cursor), ("state", aggregateState b.state)]

/-- What a step of a scanner did and left. -/
def stepped (r : Except ScanError StepOutcome) (b : BlockScanner) (t : GaugeTable) : Fields :=
  position b ++ [("outcome", outcome scanError stepOutcome r), ("range", word b.range),
    ("phase", phase b.phase), ("metrics", gaugeTable t)]

end Document
end StakingIndexer
