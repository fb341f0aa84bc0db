import StakingIndexer.Contract.Log

/-!
# Reading the parachain

The interface of a parachain node: the finalized block, logs, calls of contracts and
balances of accounts.
-/

namespace StakingIndexer

/-- The contracts that are read. The pool is also its share token, and `xctoken` is the
token that is pooled. -/
structure ContractAddresses where
  nimbus : Address
  oracleMaster : Address
  withdrawal : Address
  xctoken : Address
  controller : Address
deriving DecidableEq, Inhabited

namespace Contract

/-- A request to a node of the parachain. Logs are those of the pool. -/
inductive Request where
  | finalizedBlock
  | logs (window : BlockWindow)
  | call (contract : Address) (data : Bytes) (block : UInt64)
  | balance (account : Address) (block : UInt64)

namespace Request

def method : Request → String
  | finalizedBlock => "eth_getBlockByNumber"
  | logs _ => "eth_getLogs"
  | call _ _ _ => "eth_call"
  | balance _ _ => "eth_getBalance"

end Request

abbrev Api (σ : Type) := Rpc.Api σ Request

/-- The bytes of hexadecimal text behind at most one mark. -/
def bytes? (j : Json) : Option Bytes :=
  j.string?.bind fun s =>
    match s.toList with
    | '0' :: 'x' :: digits => Bytes.ofHexDigits digits
    | digits => Bytes.ofHexDigits digits

/-- The number that hexadecimal digits spell. -/
def hexNumber? (digits : List Char) : Option Nat :=
  if digits.isEmpty then none
  else (digits.mapM Bytes.hexValue).map fun ds => ds.foldl (fun acc d => 16 * acc + d) 0

/-- A number as a quantity: hexadecimal digits behind a mark. -/
def quantity? (j : Json) : Option Nat :=
  j.string?.bind fun s =>
    match s.toList with
    | '0' :: 'x' :: digits => hexNumber? digits
    | _ => none

/-- The 64-bit word of a quantity. -/
def word? (j : Json) : Option UInt64 := (quantity? j).bind Word.ofNat?

/-- The quantity of a number. -/
def quantity (n : Nat) : Json := .string (String.ofList ('0' :: 'x' :: Nat.toDigits 16 n))

/-- The number of a block, which also has a hash. -/
def blockNumber? (j : Json) : Option UInt64 := do
  let _ ← (j.field? "hash").bind Json.string?
  (j.field? "number").bind word?

/-- A field that may be missing or null. -/
def optionalWord? (j : Json) (name : String) : Option (Option UInt64) :=
  match j.field? name with
  | none | some .null => some none
  | some v => (word? v).map some

/-- A topic, which has thirty-two bytes. -/
def topic? (j : Json) : Option Bytes :=
  (bytes? j).bind fun bs => if bs.length = 32 then some bs else none

/-- A log from the document that a node returns. -/
def log? (j : Json) : Option EventLog := do
  let topics ← (← (← j.field? "topics").items?).mapM topic?
  let data ← bytes? (← j.field? "data")
  return ⟨← optionalWord? j "blockNumber", ← optionalWord? j "logIndex", topics, data⟩

variable {σ α : Type}

/-- The height of the newest finalized block. -/
def currentHeight (api : Api σ) : Action σ Interruption UInt64 := do
  match ← Rpc.askFor api (Rpc.orNull blockNumber?) .finalizedBlock with
  | some height => return height
  | none => throw (Rpc.undecodable "node returned no finalized block")

/-- The events of the pool in a window. One log that carries none fails the whole. -/
def events (api : Api σ) (window : BlockWindow) : Action σ Interruption (List Event) := do
  let logs ← Rpc.askFor api (fun j => j.items?.bind (List.mapM log?)) (.logs window)
  logs.mapM fun log => MonadExcept.ofExcept log.event

/-- Read the result of a call. -/
def readResult (read : Bytes → Option α) (result : Json) : Except Interruption α :=
  match bytes? result with
  | none => .error (Rpc.unexpected result)
  | some data =>
    match read data with
    | some a => .ok a
    | none => .error (Rpc.undecodable "result of a call is malformed")

/-- Call a function of a contract at a block. -/
def call (api : Api σ) (read : Bytes → Option α) (contract : Address) (signature : String)
    (arguments : List Bytes) (block : UInt64) : Action σ Interruption α := do
  let result ← Rpc.ask api (.call contract (Abi.call signature arguments) block)
  MonadExcept.ofExcept (readResult read result)

/-- Call a function of a contract at a block, with no answer if the contract refuses. -/
def tryCall (api : Api σ) (read : Bytes → Option α) (contract : Address) (signature : String)
    (arguments : List Bytes) (block : UInt64) : Action σ Interruption (Option α) := fun s =>
  match api (.call contract (Abi.call signature arguments) block) s with
  | (.error _ _ _, s) => (.ok none, s)
  | (reply, s) => ((reply.result.bind (readResult read)).map some, s)

/-- The balance of an account at a block. -/
def balance (api : Api σ) (account : Address) (block : UInt64) : Action σ Interruption Amount :=
  Rpc.askFor api (fun j => (quantity? j).bind Amount.ofNat?) (.balance account block)

end Contract
end StakingIndexer
