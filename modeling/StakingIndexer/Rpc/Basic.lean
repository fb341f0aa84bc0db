import StakingIndexer.Json
import StakingIndexer.Reader.Basic

/-!
# Calls of a node's interface

A node replies to a request with a value or with an error response. Which errors are final
is decided by their texts, and a value of an unexpected form is an error as well. Each
endpoint behind a link offers such an interface.
-/

namespace StakingIndexer
namespace Rpc

/-- How a node replies to a request: with a value, with an error response, whose `data` may
be absent, by breaking the connection, or never. -/
inductive Reply where
  | value (result : Json)
  | error (code : Int) (message : String) (data : Option Json)
  | broken (detail : String)
  | silent

/-- How requests of a type `ρ` are answered over a state `σ`. -/
abbrev Api (σ ρ : Type) := ρ → StateM σ Reply

/-- The text of an error response. -/
def errorText (code : Int) (message : String) (data : Option Json) : String :=
  "server returned an error response: error code " ++ toString code ++ ": " ++ message
    ++ (match data with
      | some data => ", data: " ++ data.render
      | none => "")

/-- The error of a text that came instead of a value. -/
def failed (detail : String) : Interruption :=
  .failed (if CallError.isRangeTooLarge detail then .rangeTooLarge detail else .transport detail)

/-- The error of a value of an unexpected form. -/
def unexpected (result : Json) : Interruption :=
  let detail := "deserialization error: " ++ result.render
  .failed (if CallError.isRangeTooLarge detail then .rangeTooLarge detail else .decode detail)

/-- An answer that cannot be read for a stated reason. -/
def undecodable (reason : String) : Interruption := .failed (.decode reason)

namespace Reply

/-- The value of a reply. -/
def result : Reply → Except Interruption Json
  | value j => .ok j
  | error code message data => .error (failed (errorText code message data))
  | broken detail => .error (failed detail)
  | silent => .error .hung

end Reply

variable {σ ρ α : Type}

/-- Ask for a value. -/
def ask (api : Api σ ρ) (request : ρ) : Action σ Interruption Json := fun s =>
  let (reply, s) := api request s
  (reply.result, s)

/-- Ask for a value of a form that `read` knows. -/
def askFor (api : Api σ ρ) (read : Json → Option α) (request : ρ) : Action σ Interruption α := do
  let result ← ask api request
  match read result with
  | some a => return a
  | none => throw (unexpected result)

/-- A value that may be null. -/
def orNull (read : Json → Option α) : Json → Option (Option α)
  | .null => some none
  | j => (read j).map some

/-- A reply that a node gives out of turn, to a method or, if none is named, to any. Without
a reply it only stands in for a call. -/
structure Fault where
  method : Option String
  reply : Option Reply

/-- Take the first fault that a call of a method meets. -/
def takeFault (method : String) : List Fault → Option Fault × List Fault
  | [] => (none, [])
  | f :: rest =>
    if f.method.getD method = method then (some f, rest)
    else
      let (found, rest) := takeFault method rest
      (found, f :: rest)

/-- Reply to a method: by the first fault that it meets, else by a table. -/
def replyWith (faults : List Fault) (method : String) (reply : Reply) : Reply × List Fault :=
  let (fault, faults) := takeFault method faults
  ((fault.bind (·.reply)).getD reply, faults)

/-- The entry of a table under a key, which is looked up in lower case. -/
def lookup {β : Type} (table : List (String × β)) (key : String) : Option β :=
  (table.find? (·.1 == key.map Char.toLower)).map (·.2)

end Rpc

/-- How a chain is read: its reader, and the interface of each endpoint. -/
structure NodeLink (σ ρ : Type) extends Link σ where
  api : Endpoint → Rpc.Api σ ρ

namespace NodeLink

variable {σ ρ α : Type}

/-- Read through the interface of one endpoint after another until one answers. -/
def read (l : NodeLink σ ρ) (op : String) (reading : Rpc.Api σ ρ → Action σ Interruption α) :
    Action σ ReadError α :=
  l.run op fun e => reading (l.api e)

/-- The name under which readings of the height are reported. -/
def heightOp : String := "current_height"

/-- The name under which readings of state are reported. -/
def stateOp : String := "fetch_contract_state"

end NodeLink

end StakingIndexer
