import StakingIndexer.Codec.Basic
import StakingIndexer.Rpc.Basic
import StakingIndexer.Text.HexNumber

/-!
# Reading the relay chain

The interface of a relay chain node: the finalized head, headers, block hashes and the
storage at a block.
-/

namespace StakingIndexer
namespace Relay

/-- A request to a node of the relay chain: the hash of the newest finalized block, a
header, the hash of the block at a height, or the value under a key as seen from a block. -/
inductive Request where
  | finalizedHead
  | header (hash : String)
  | blockHash (number : UInt64)
  | storage (key : Bytes) (hash : String)

namespace Request

def method : Request → String
  | finalizedHead => "chain_getFinalizedHead"
  | header _ => "chain_getHeader"
  | blockHash _ => "chain_getBlockHash"
  | storage _ _ => "state_getStorage"

end Request

abbrev Api (σ : Type) := Rpc.Api σ Request

variable {σ α : Type}

/-- The number in a header: a field of an object, or the single item of a list. -/
def headerNumber? : Json → Option String
  | .array [.string number] => some number
  | .object fields => ((Json.object fields).field? "number").bind Json.string?
  | _ => none

def finalizedHead (api : Api σ) : Action σ Interruption String :=
  Rpc.askFor api Json.string? .finalizedHead

/-- The number of a block from the hexadecimal text in its header. -/
def parseBlockNumber (text : String) : Except Interruption UInt64 :=
  match HexNumber.parse (Bytes.dropHexMarks text.toList) with
  | .ok n => .ok n
  | .error e => .error (Rpc.undecodable ("invalid block number " ++ text ++ ": " ++ e.message))

def blockNumber (api : Api σ) (hash : String) : Action σ Interruption UInt64 := do
  match ← Rpc.askFor api (Rpc.orNull headerNumber?) (.header hash) with
  | some number => MonadExcept.ofExcept (parseBlockNumber number)
  | none => throw (Rpc.undecodable ("unknown block " ++ hash))

/-- The height of the newest finalized block. -/
def currentHeight (api : Api σ) : Action σ Interruption UInt64 := do
  blockNumber api (← finalizedHead api)

def blockHash (api : Api σ) (number : UInt64) : Action σ Interruption String := do
  match ← Rpc.askFor api (Rpc.orNull Json.string?) (.blockHash number) with
  | some hash => return hash
  | none => throw (Rpc.undecodable ("no block at height " ++ toString number.toNat))

/-- The stored bytes under a key, if there are any. -/
def rawStorage (api : Api σ) (hash : String) (key : Bytes) :
    Action σ Interruption (Option Bytes) := do
  match ← Rpc.askFor api (Rpc.orNull Json.string?) (.storage key hash) with
  | none => return none
  | some text =>
    match Bytes.ofHex text with
    | some bs => return some bs
    | none => throw (Rpc.undecodable "stored value is not hexadecimal")

/-- The stored value under a key. Bytes behind the value are ignored. -/
def storage (api : Api σ) (hash : String) (c : Codec α) (key : Bytes) :
    Action σ Interruption (Option α) := do
  match ← rawStorage api hash key with
  | none => return none
  | some bs =>
    match c.decode bs with
    | some (a, _) => return some a
    | none => throw (Rpc.undecodable "stored value is malformed")

end Relay
end StakingIndexer
