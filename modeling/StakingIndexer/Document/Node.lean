import StakingIndexer.Contract.Node
import StakingIndexer.Document.Basic
import StakingIndexer.Relay.Node

/-!
# Documents of nodes in memory
-/

namespace StakingIndexer
namespace Document

/-- A reply out of turn: a failing connection, silence, a result, or else an error response.
A reply that only stands in for a call is none. -/
def readReply (j : Json) : Option (Option Rpc.Reply) := do
  if ← get readBool false j "pass" then return none
  if let some detail ← getOption readText j "transport" then return some (.broken detail)
  if ← get readBool false j "hang" then return some .silent
  if let some result := j.field? "result" then return some (.value result)
  let code ← get Json.int? (-32000) j "code"
  return some (.error code (← getText j "message") (j.field? "data"))

def readFault : Read Rpc.Fault := fun j => do
  return ⟨← getOption readText j "method", ← readReply j⟩

/-- The fields of a table that may be missing, with keys in lower case. -/
def getTable {α : Type} (read : Read α) (j : Json) (name : String) :
    Option (List (String × α)) := do
  match given? j name with
  | none => return []
  | some t => (← t.fields?).mapM fun f => do return (f.1.map Char.toLower, ← read f.2)

def readRelayNode : Read RelayNode := fun j => do
  let storage ← getTable (fun t => getTable some (.object [("t", t)]) "t") j "storage"
  let hashes ← getTable some j "hashes"
  return {
    finalized := (j.field? "finalized").getD .null
    headers := ← getTable some j "headers"
    hashes := hashes.filter (·.1 != "*")
    hashStem := ((Json.object hashes).field? "*").bind Json.string?
    storage := storage.filter (·.1 != "*")
    sharedStorage := (Rpc.lookup storage "*").getD []
    faults := ← getList readFault j "faults" }

/-- A reply in a table of calls: data, or an object that describes a reply out of turn. -/
def readCallReply : Read (Option Rpc.Reply)
  | .null => some none
  | j@(.object _) => readReply j
  | j => some (some (.value j))

def readParachainNode (nimbus : Address) : Read ParachainNode := fun j => do
  let calls ← getTable (fun t => getTable readCallReply (.object [("t", t)]) "t") j "calls"
  return {
    finalizedBlock := (j.field? "finalized_block").getD .null
    logs := ← getList some j "logs"
    maxLogs := ← getOption readNat j "max_logs"
    calls := calls.map fun e => (e.1, e.2.filterMap fun c => c.2.map fun r => (c.1, r))
    balances := ← getTable some j "balances"
    nimbus
    faults := ← getList readFault j "faults" }

/-- An address all of whose bytes are alike. -/
def repeated (byte : UInt8) : Address := .ofBytes (List.replicate 20 byte)

def readContractAddresses : Read ContractAddresses := fun j => do
  return {
    nimbus := ← get readAddress (repeated 0xa1) j "nimbus"
    oracleMaster := ← get readAddress (repeated 0xa2) j "oracle_master"
    withdrawal := ← get readAddress (repeated 0xa3) j "withdrawal"
    xctoken := ← get readAddress (repeated 0xa4) j "xctoken"
    controller := ← get readAddress (repeated 0xa5) j "controller" }

/-- The contract addresses that a document gives. -/
def getContractAddresses (j : Json) : Option ContractAddresses :=
  readContractAddresses ((j.field? "addresses").getD (.object []))

end Document
end StakingIndexer
