import StakingIndexer.Contract.Client

/-!
# A parachain node in memory

The node answers from tables, after the faults that it is told to show. Addresses and the
data of calls are looked up in lower case.
-/

namespace StakingIndexer

/-- The tables of a node. The newest finalized block is its number, null or anything else;
replies to calls are kept by contract and data, and balances by account, with or without a
block behind the key; logs are those of `nimbus`. -/
structure ParachainNode where
  finalizedBlock : Json
  logs : List Json
  maxLogs : Option Nat
  calls : List (String × List (String × Rpc.Reply))
  balances : List (String × Json)
  nimbus : Address
  faults : List Rpc.Fault

namespace ParachainNode

/-- The mark of a block behind a key. -/
def atBlock (key : String) (block : UInt64) : String :=
  key ++ "@0x" ++ String.ofList (Nat.toDigits 16 block.toNat)

/-- The entry of a key at a block, else the entry of the key. -/
def lookupAt {α : Type} (table : List (String × α)) (key : String) (block : UInt64) : Option α :=
  (Rpc.lookup table (atBlock key block)).or (Rpc.lookup table key)

/-- Whether a log in the table is asked for: one of the pool's within the window whose first
topic is an event's. A log may be marked to pass with any topic, and one without a block
passes with any window. -/
def isAsked (nimbus : Address) (w : BlockWindow) (log : Json) : Bool :=
  let text (j : Option Json) : Option String := (j.bind Json.string?).map (·.map Char.toLower)
  let inWindow := match (log.field? "blockNumber").bind Contract.word? with
    | some block => w.contains block
    | none => true
  let hasTopic := match ((log.field? "topics").bind Json.items?).getD [] with
    | topic :: _ => EventKind.all.any fun k => text (some topic) = some (Bytes.toHex k.topic)
    | [] => false
  let unfiltered := ((log.field? "unfiltered").bind Json.bool?).getD false
  inWindow && text (log.field? "address") = some nimbus.toHex && (unfiltered || hasTopic)

/-- The reply that the tables hold for a request. -/
def tableReply (n : ParachainNode) : Contract.Request → Rpc.Reply
  | .finalizedBlock =>
    match n.finalizedBlock.int? with
    | some height =>
      .value (.object [("hash", .string (Bytes.toHex (Bytes.ofNatBE 32 height.toNat))),
        ("number", Contract.quantity height.toNat)])
    | none => .value n.finalizedBlock
  | .logs window =>
    let logs := n.logs.filter (isAsked n.nimbus window)
    match n.maxLogs with
    | some limit =>
      if limit < logs.length then
        .error (-32005) ("query returned more than " ++ toString limit ++ " results") none
      else .value (.array logs)
    | none => .value (.array logs)
  | .call contract data block =>
    let entries := (Rpc.lookup n.calls contract.toHex).getD []
    (lookupAt entries (Bytes.toHex data) block).getD (.error 3 "execution reverted" none)
  | .balance account block => .value ((lookupAt n.balances account.toHex block).getD .null)

/-- Reply to a request. -/
def reply (request : Contract.Request) : StateM ParachainNode Rpc.Reply := fun n =>
  let (reply, faults) := Rpc.replyWith n.faults request.method (n.tableReply request)
  (reply, { n with faults })

/-- Replace the named tables by those of another node. -/
def patch (n other : ParachainNode) (names : List String) : ParachainNode :=
  let pick {α : Type} (name : String) (old new : α) : α := if names.contains name then new else old
  { finalizedBlock := pick "finalized_block" n.finalizedBlock other.finalizedBlock
    logs := pick "logs" n.logs other.logs
    maxLogs := pick "max_logs" n.maxLogs other.maxLogs
    calls := pick "calls" n.calls other.calls
    balances := pick "balances" n.balances other.balances
    nimbus := n.nimbus
    faults := pick "faults" n.faults other.faults }

end ParachainNode
end StakingIndexer
