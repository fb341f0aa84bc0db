import StakingIndexer.Reader.Events

/-!
# A chain in memory

A chain whose height and events are set by hand, and which can be told to fail, to hang
or to refuse large answers.
-/

namespace StakingIndexer

/-- The content of the chain, every window that was asked for, and the faults that it will
show: how many of the next calls fail, how many events an answer may hold, and which
endpoints refuse connections. -/
structure LocalChain where
  height : UInt64
  events : List Event
  requests : List BlockWindow
  maxResults : Option Nat
  failingCalls : Nat
  hanging : Bool
  refused : List String

namespace LocalChain

def empty (refused : List String) : LocalChain := ⟨0, [], [], none, 0, false, refused⟩

def connect (e : Endpoint) : Action LocalChain Interruption Unit := fun c =>
  if c.refused.contains e.url then
    (.error (.failed (.transport ("connection refused: " ++ e.url))), c)
  else (.ok (), c)

/-- Show the next fault, if there is one. -/
def checkCall : Action LocalChain Interruption Unit := fun c =>
  if c.hanging then (.error .hung, c)
  else if c.failingCalls ≠ 0 then
    (.error (.failed (.transport "connection reset by peer")),
      { c with failingCalls := c.failingCalls - 1 })
  else (.ok (), c)

def currentHeight : Action LocalChain Interruption UInt64 := do
  checkCall
  Action.read (·.height)

/-- The events of a window in the order in which they were added. -/
def eventsIn (c : LocalChain) (w : BlockWindow) : List Event :=
  c.events.filter fun e => w.contains e.block

def logs (w : BlockWindow) : Action LocalChain Interruption (List Event) := do
  checkCall
  modify fun c => { c with requests := c.requests ++ [w] }
  let c ← get
  let events := c.eventsIn w
  match c.maxResults with
  | some limit =>
    if limit < events.length then
      throw (.failed (.rangeTooLarge
        ("query returned more than " ++ toString limit ++ " results")))
    else return events
  | none => return events

end LocalChain

/-- How a chain in memory is set, or shows the windows that were asked for. -/
inductive ChainCommand where
  | setHeight (height : UInt64)
  | pushEvents (events : List Event)
  | setMaxResults (limit : Option Nat)
  | failNextCalls (n : Nat)
  | setHanging (hanging : Bool)
  | requests

namespace LocalChain

/-- Carry out a command; only one that shows something is answered. -/
def execute (c : LocalChain) : ChainCommand → Option (List BlockWindow) × LocalChain
  | .setHeight height => (none, { c with height })
  | .pushEvents events => (none, { c with events := c.events ++ events })
  | .setMaxResults limit => (none, { c with maxResults := limit })
  | .failNextCalls n => (none, { c with failingCalls := n })
  | .setHanging hanging => (none, { c with hanging })
  | .requests => (some c.requests, c)

end LocalChain

end StakingIndexer
