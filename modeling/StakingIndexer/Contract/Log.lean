import StakingIndexer.Contract.Abi
import StakingIndexer.Event
import StakingIndexer.Reader.Basic
import StakingIndexer.Rpc.Basic

/-!
# Logs of the pool contract

A log carries an event: its first topic is the hash of the event's signature, the other
topics are indexed parameters, and the data holds the remaining parameters in order.
-/

namespace StakingIndexer

/-- A log as a node returns it, with no place if it is not in a block yet. -/
structure EventLog where
  block : Option UInt64
  index : Option UInt64
  topics : List Bytes
  data : Bytes
deriving DecidableEq

/-- The kinds of events. -/
inductive EventKind where
  | transfer
  | deposited
  | redeemed
  | rewards
  | losses
deriving DecidableEq

namespace EventKind

def all : List EventKind := [transfer, deposited, redeemed, rewards, losses]

def signature : EventKind → String
  | transfer => "Transfer(address,address,uint256)"
  | deposited => "Deposited(address,uint256)"
  | redeemed => "Redeemed(address,uint256)"
  | rewards => "Rewards(address,uint256,uint256)"
  | losses => "Losses(address,uint256,uint256)"

/-- The first topic of the kind's logs. -/
def topic (k : EventKind) : Bytes := Hash.keccak256 k.signature.toUTF8.toList

def ofTopic? (topic : Bytes) : Option EventKind := all.find? fun k => k.topic = topic

/-- How many parameters are topics, and how many are words of the data. -/
def shape : EventKind → Nat × Nat
  | transfer => (2, 1)
  | deposited => (1, 1)
  | redeemed => (1, 1)
  | rewards => (0, 3)
  | losses => (0, 3)

end EventKind

namespace EventPayload

def kind : EventPayload → EventKind
  | transfer .. => .transfer
  | deposited .. => .deposited
  | redeemed .. => .redeemed
  | rewards .. => .rewards
  | losses .. => .losses

/-- The indexed parameters and the others, as words. -/
def words : EventPayload → List Bytes × List Bytes
  | transfer sender receiver value =>
    ([Abi.addressWord sender, Abi.addressWord receiver], [Abi.amountWord value])
  | deposited sender amount => ([Abi.addressWord sender], [Abi.amountWord amount])
  | redeemed receiver amount => ([Abi.addressWord receiver], [Abi.amountWord amount])
  | rewards ledger value balance =>
    ([], [Abi.addressWord ledger, Abi.amountWord value, Abi.amountWord balance])
  | losses ledger value balance =>
    ([], [Abi.addressWord ledger, Abi.amountWord value, Abi.amountWord balance])

/-- The payload of a kind with parameters in the order of the signature. -/
def ofWords? : EventKind → List Bytes → Option EventPayload
  | .transfer, [sender, receiver, value] =>
    some (transfer (.ofBytes sender) (.ofBytes receiver) (Abi.toAmount value))
  | .deposited, [sender, amount] => some (deposited (.ofBytes sender) (Abi.toAmount amount))
  | .redeemed, [receiver, amount] => some (redeemed (.ofBytes receiver) (Abi.toAmount amount))
  | .rewards, [ledger, value, balance] =>
    some (rewards (.ofBytes ledger) (Abi.toAmount value) (Abi.toAmount balance))
  | .losses, [ledger, value, balance] =>
    some (losses (.ofBytes ledger) (Abi.toAmount value) (Abi.toAmount balance))
  | _, _ => none

end EventPayload

namespace EventLog

/-- The log that the contract emits for an event. -/
def ofEvent (e : Event) : EventLog :=
  let (indexed, others) := e.payload.words
  ⟨some e.block, some e.index, e.payload.kind.topic :: indexed, others.flatten⟩

/-- The payload of a kind from the topics behind the first one and the data, which may be
longer than needed. That topics in excess are refused is assumed of the decoder. -/
def payload? (kind : EventKind) (indexed : List Bytes) (data : Bytes) : Option EventPayload := do
  let (topics, words) := kind.shape
  if indexed.length = topics then
    let others ← (List.range words).mapM fun i => Abi.wordAt data (32 * i)
    EventPayload.ofWords? kind (indexed ++ others)
  else none

/-- The event that a log carries. -/
def event (log : EventLog) : Except Interruption Event := do
  let some block := log.block | throw (Rpc.undecodable "log is missing its block number")
  let some index := log.index | throw (Rpc.undecodable "log is missing its index")
  let topic :: indexed := log.topics | throw (Rpc.undecodable "log has no topics")
  let some kind := EventKind.ofTopic? topic
    | throw (Rpc.undecodable ("unknown Nimbus event topic " ++ Bytes.toHex topic ++ " at block "
        ++ toString block.toNat))
  let some payload := payload? kind indexed log.data
    | throw (Rpc.undecodable "log does not fit its event")
  return ⟨block, index, payload⟩

end EventLog
end StakingIndexer
