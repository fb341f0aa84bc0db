import StakingIndexer.Scan.Basic

/-!
# The block scanner

One step reads the height of the chain, scans the next window and commits the change
together with the cursor. Only an applied commit moves the scanner and publishes gauges.
-/

namespace StakingIndexer

/-- What scanning a window yields. Its gauges are published but not stored. -/
structure ScanOutput where
  state : AggregateState
  delta : AggregateDelta
  gauges : List Gauge

/-- How scanning a window ends. It is cancelled if the loop was told to stop, and aborted if
the constants of the protocol admit no output. -/
inductive ScanResult where
  | output (out : ScanOutput)
  | failed (error : ScanError)
  | cancelled
  | aborted

namespace ScanResult

/-- The result of an action that yields an output. -/
def ofOutput : Except ScanError ScanOutput → ScanResult
  | .ok out => output out
  | .error e => failed e

end ScanResult

/-- The part of a loop that knows a chain. The initial cursor is that before the first
commit, `throttle` the least time between two windows in milliseconds; `hydrate` fills in
what is not stored with the aggregate, and `gauges` is what is published for a committed
window. -/
structure ScanTarget (ω : Type) where
  id : TargetId
  chain : Chain
  kind : WindowKind
  initialCursor : UInt64
  throttle : Option Nat
  currentHeight : Action ω ScanError UInt64
  hydrate : AggregateState → Action ω ScanError AggregateState
  scan : BlockWindow → AggregateState → ω → ScanResult × ω
  gauges : AggregateState → BlockWindow → List Gauge

/-- The limits of a loop. Times are milliseconds. -/
structure ScannerConfig where
  maxRange : UInt64
  pollInterval : Nat
  baseBackoff : Nat
  maxBackoff : Nat

/-- What a loop works on: a target, a store, the registry of gauges and the unix time, by
which commits are stamped. -/
structure ScanLoop (ω : Type) where
  target : ScanTarget ω
  store : CheckpointStore ω
  publish : Gauge → ω → ω
  now : ω → Int
  config : ScannerConfig

/-- Where a loop is. -/
inductive ScannerPhase where
  | idle
  | scanning (window : BlockWindow)
  | committing (window : BlockWindow)
  | failed
deriving DecidableEq

/-- What a step did. It is up to date if the cursor is at the height of the chain, and a
window is already applied if another writer had committed it. An aborted step admits no
output, and its loop cannot go on. -/
inductive StepOutcome where
  | upToDate
  | committed (window : BlockWindow)
  | alreadyApplied (window : BlockWindow)
  | cancelled
  | aborted
deriving DecidableEq

/-- A scan loop between its steps: the last committed block, the state as of it, the range
of the next window, and the number of failures in a row. -/
structure BlockScanner where
  cursor : UInt64
  state : AggregateState
  range : UInt64
  failures : UInt32
  phase : ScannerPhase

namespace BlockScanner

variable {ω : Type}

/-- Publish gauges in order. -/
def publishAll (l : ScanLoop ω) (gauges : List Gauge) (w : ω) : ω :=
  gauges.foldl (fun w g => l.publish g w) w

/-- The name of the gauge that is one while the loop fails. -/
def alertName (l : ScanLoop ω) : String := "alert_not_connected_" ++ l.target.id.name

/-- The range of a fresh window. -/
def fullRange (l : ScanLoop ω) : UInt64 := max l.config.maxRange 1

/-- The stored state of the loop's chain, completed by the target. -/
def loadState (l : ScanLoop ω) : Action ω ScanError AggregateState := do
  let stored ← (l.store.loadState l.target.chain).mapError .store
  l.target.hydrate (stored.getD (.empty l.target.chain))

/-- Take cursor and state from the store. The cursor is taken first, and stays taken if
the state cannot be loaded. -/
def reload (l : ScanLoop ω) (b : BlockScanner) (w : ω) :
    Except ScanError Unit × BlockScanner × ω :=
  match l.store.loadCursor l.target.chain l.target.id w with
  | (.error e, w) => (.error (.store e), b, w)
  | (.ok stored, w) =>
    let b := match stored with
      | some c => { b with cursor := c.block }
      | none => b
    match loadState l w with
    | (.error e, w) => (.error e, b, w)
    | (.ok state, w) => (.ok (), { b with state }, w)

/-- A scanner at its stored position. -/
def new (l : ScanLoop ω) (w : ω) : Except ScanError BlockScanner × ω :=
  let b : BlockScanner :=
    ⟨l.target.initialCursor, .empty l.target.chain, fullRange l, 0, .idle⟩
  match reload l b w with
  | (.ok (), b, w) => (.ok b, w)
  | (.error e, _, w) => (.error e, w)

/-- Commit the output of a window. -/
def commit (l : ScanLoop ω) (window : BlockWindow) (out : ScanOutput) (b : BlockScanner) (w : ω) :
    Except ScanError StepOutcome × BlockScanner × ω :=
  let b := { b with phase := .committing window }
  match l.store.commit ⟨l.target.chain, l.target.id, window.last, l.now w⟩ out.delta w with
  | (.error e, w) => (.error (.store e), b, w)
  | (.ok .applied, w) =>
    let b := { b with
      cursor := window.last
      state := out.state
      range := fullRange l
      failures := 0 }
    let gauges := out.gauges ++ l.target.gauges out.state window ++ [.plain (alertName l) 0.0]
    (.ok (.committed window), b, publishAll l gauges w)
  | (.ok .alreadyApplied, w) =>
    match reload l b w with
    | (.ok (), b, w) => (.ok (.alreadyApplied window), b, w)
    | (.error e, b, w) => (.error e, b, w)

/-- Scan and commit at most one window. -/
def step (l : ScanLoop ω) (b : BlockScanner) (w : ω) :
    Except ScanError StepOutcome × BlockScanner × ω :=
  let b := { b with phase := .idle }
  match l.target.currentHeight w with
  | (.error e, w) => (.error e, b, w)
  | (.ok height, w) =>
    match Scan.nextWindow l.target.kind b.cursor height b.range with
    | none => (.ok .upToDate, b, w)
    | some window =>
      let b := { b with phase := .scanning window }
      match l.target.scan window b.state w with
      | (.failed e, w) => (.error e, b, w)
      | (.cancelled, w) => (.ok .cancelled, b, w)
      | (.aborted, w) => (.ok .aborted, b, w)
      | (.output out, w) => commit l window out b w

/-- Note an error, and say how long to wait before the next step. -/
def onError (l : ScanLoop ω) (e : ScanError) (b : BlockScanner) (w : ω) :
    Nat × BlockScanner × ω :=
  let recovery := e.recovery l.target.kind
  let b := if recovery.shrinks then { b with range := Scan.shrinkRange b.range } else b
  if recovery = .shrinkRange then (0, b, w)
  else
    let delay := Scan.backoffDelay l.config.baseBackoff l.config.maxBackoff b.failures
    let failures := if b.failures = Word.maxU32 then b.failures else b.failures + 1
    (delay, { b with phase := .failed, failures }, l.publish (.plain (alertName l) 1.0) w)

/-- What one pass of a loop did, and the pause behind it. -/
structure Pass where
  outcome : Except ScanError StepOutcome
  pause : Nat

namespace Pass

/-- Whether the loop cannot go on. -/
def isLast (p : Pass) : Bool :=
  match p.outcome with
  | .ok .cancelled | .ok .aborted => true
  | _ => false

end Pass

/-- One pass of the loop: a step, and the choice of the pause that follows it. -/
def pass (l : ScanLoop ω) (b : BlockScanner) (w : ω) : Pass × BlockScanner × ω :=
  match step l b w with
  | (.ok outcome, b, w) =>
    let pause := match outcome with
      | .upToDate => l.config.pollInterval
      | .committed _ => l.target.throttle.getD 0
      | _ => 0
    (⟨.ok outcome, pause⟩, b, w)
  | (.error e, b, w) =>
    let (pause, b, w) := onError l e b w
    (⟨.error e, pause⟩, b, w)

/-- Pass after pass until the loop is told to stop, at most `passes` times. `note` sees every
pass before its pause begins. -/
def run (l : ScanLoop ω) (stopped : ω → Bool) (note : Pass → ω → ω) :
    (passes : Nat) → BlockScanner → ω → BlockScanner × ω
  | 0, b, w => (b, w)
  | passes + 1, b, w =>
    if stopped w then (b, w)
    else
      let (p, b, w) := pass l b w
      if p.isLast then (b, note p w) else run l stopped note passes b (note p w)

end BlockScanner
end StakingIndexer
