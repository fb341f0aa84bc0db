import StakingIndexer.Address
import StakingIndexer.Amount

/-!
# Events of the pool and reports of its ledgers

Events are ordered by block and by their index within the block; this pair is their key.
-/

namespace StakingIndexer

/-- What happened. The zero address stands for minting and burning; a ledger reports a
reward or a loss with its balance after it. -/
inductive EventPayload where
  | transfer (sender receiver : Address) (value : Amount)
  | deposited (sender : Address) (amount : Amount)
  | redeemed (receiver : Address) (amount : Amount)
  | rewards (ledger : Address) (rewards balance : Amount)
  | losses (ledger : Address) (losses balance : Amount)
deriving DecidableEq

/-- An event at its place in the chain. -/
structure Event where
  block : UInt64
  index : UInt64
  payload : EventPayload
deriving DecidableEq

namespace Event

/-- The place that orders events and tells them apart. -/
def key (e : Event) : UInt64 × UInt64 := (e.block, e.index)

/-- Whether an event stands at or before the place of another. -/
def keyLe (a b : Event) : Bool := a.block < b.block || (a.block == b.block && a.index ≤ b.index)

/-- The events by place, those of one place in the order given. -/
def sortByKey (events : List Event) : List Event := events.mergeSort keyLe

/-- Of neighbours with the same key, keep the first. -/
def dropRepeats : List Event → List Event
  | [] => []
  | e :: rest => e :: after e.key rest
where
  after (last : UInt64 × UInt64) : List Event → List Event
    | [] => []
    | e :: rest => if e.key = last then after last rest else e :: after e.key rest

end Event

/-- One report of a ledger: a reward, or a loss as a negative reward. -/
structure RewardRow where
  ledger : Address
  reward : SignedAmount
  balance : Amount
  block : UInt64
deriving DecidableEq

end StakingIndexer
