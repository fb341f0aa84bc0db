import Mathlib
import StakingIndexer.Aggregate.Fold
import StakingIndexer.Proofs.Aggregate.Composition
import StakingIndexer.Proofs.EventOrder

/-!
# A window as a check and a fold

Whether a window can be folded is decided by its first block and by the amounts of its
reports. The fold behind this check always succeeds: each event moves balances, adds to the
counters and appends at most one report, in this order. Both see the events of a window as a
set: the order in which they come, and how often each one does, bears on neither.
-/

namespace StakingIndexer

open EventAggregator

namespace EventPayload

def increments : EventPayload → CounterIncrements
  | transfer _ _ _ => {}
  | deposited _ amount =>
    { deposited := amount, bufferedDeposits := amount, depositedCount := 1 }
  | redeemed _ amount =>
    { redeemed := amount, bufferedRedeemsDrawn := amount, redeemedCount := 1 }
  | rewards _ amount _ => { rewardsAggregated := amount }
  | losses _ amount _ => { lossesAggregated := amount }

end EventPayload

namespace Event

def report (e : Event) : Except AggregationError (Option RewardRow) :=
  match e.payload with
  | .rewards ledger rewards balance =>
    (signedReport rewards e.block).map fun r => some ⟨ledger, r, balance, e.block⟩
  | .losses ledger losses balance =>
    (signedLoss losses e.block).map fun r => some ⟨ledger, r, balance, e.block⟩
  | _ => .ok none

def row? (e : Event) : Option RewardRow :=
  match e.report with
  | .ok row => row
  | .error _ => none

def blockGoesOn (e : Event) : List Event → Bool
  | next :: _ => next.block == e.block
  | [] => false

end Event

namespace EventAggregator

namespace Progress

def move (p : Progress) : EventPayload → Progress
  | .transfer sender receiver value =>
    { (p.changeHolder sender (·.satSub value)).changeHolder receiver (·.satAdd value) with
      sawTransfer := true }
  | _ => p

def note (p : Progress) (limit : Nat) : Option RewardRow → Progress
  | some row => p.report row limit
  | none => p

def take (p : Progress) (limit : Nat) (e : Event) : Progress :=
  ((p.move e.payload).count e.payload.increments).note limit e.row?

@[simp] theorem count_empty (p : Progress) : p.count {} = p := by
  simp [count]

end Progress

theorem applyEvent_eq (a : EventAggregator) (p : Progress) (e : Event) :
    a.applyEvent p e = e.report.map fun _ => p.take a.historyLimit e := by
  obtain ⟨block, index, payload⟩ := e
  unfold applyEvent Progress.take Event.row? Event.report
  dsimp only
  cases payload with
  | transfer sender receiver value =>
    rw [EventPayload.increments, Progress.count_empty]
    rfl
  | deposited sender amount => rfl
  | redeemed receiver amount => rfl
  | rewards ledger rewards balance =>
    dsimp only
    cases signedReport rewards block <;> rfl
  | losses ledger losses balance =>
    dsimp only
    cases signedLoss losses block <;> rfl

/-- Fold events that can be folded, finishing each block behind its last event. -/
def foldEvents (a : EventAggregator) : Progress → List Event → Progress
  | p, [] => p
  | p, e :: rest =>
    let p := p.take a.historyLimit e
    a.foldEvents (if e.blockGoesOn rest then p else a.closeBlock p e.block) rest

/-- Refuse the first event whose report has no signed value. -/
def checkReports : List Event → Except AggregationError Unit
  | [] => .ok ()
  | e :: rest => e.report.bind fun _ => checkReports rest

theorem applyEvents_eq (a : EventAggregator) (p : Progress) (l : List Event) :
    a.applyEvents p l = (checkReports l).map fun _ => a.foldEvents p l := by
  induction l generalizing p with
  | nil => rfl
  | cons e l ih =>
    unfold applyEvents checkReports
    rw [applyEvent_eq]
    cases e.report with
    | error x => rfl
    | ok row =>
      refine (ih _).trans ?_
      cases l <;> rfl

/-- What a window leads to if it can be folded. -/
def window (a : EventAggregator) (s : AggregateState) (events : List Event)
    (ledgers : List LedgerRecord) : AppliedWindow :=
  let p := applySnapshots (countHolders (a.foldEvents (.start s) (Event.ordered events))) ledgers
  ⟨p.state, p.delta⟩

/-- Whether a window can be folded. -/
def checkWindow (s : AggregateState) (events : List Event) : Except AggregationError Unit :=
  (checkFresh s (Event.ordered events)).bind fun _ => checkReports (Event.ordered events)

/-- Applying a window is a check followed by a fold that cannot fail. -/
theorem apply_eq (a : EventAggregator) (s : AggregateState) (events : List Event)
    (ledgers : List LedgerRecord) :
    a.apply s events ledgers = (checkWindow s events).map fun _ => a.window s events ledgers := by
  change (checkFresh s (Event.ordered events)).bind (fun _ =>
    (a.applyEvents (.start s) (Event.ordered events)).bind _) = _
  rw [applyEvents_eq]
  unfold checkWindow
  cases checkFresh s (Event.ordered events) with
  | error x => rfl
  | ok _ => cases checkReports (Event.ordered events) <;> rfl

theorem apply_eq_ok_iff {a : EventAggregator} {s : AggregateState} {events : List Event}
    {ledgers : List LedgerRecord} {r : AppliedWindow} :
    a.apply s events ledgers = .ok r ↔
      checkWindow s events = .ok () ∧ a.window s events ledgers = r := by
  rw [apply_eq]
  cases checkWindow s events <;> simp [Except.map]

theorem apply_of_checkWindow (a : EventAggregator) {s : AggregateState} {events : List Event}
    (ledgers : List LedgerRecord) (h : checkWindow s events = .ok ()) :
    a.apply s events ledgers = .ok (a.window s events ledgers) :=
  apply_eq_ok_iff.2 ⟨h, rfl⟩

theorem checkReports_append (l m : List Event) :
    checkReports (l ++ m) = (checkReports l).bind fun _ => checkReports m := by
  induction l with
  | nil => rfl
  | cons e l ih =>
    rw [List.cons_append, checkReports, checkReports, ih]
    cases e.report <;> rfl

/-- Folding goes on where it stopped if a new block begins there. -/
theorem foldEvents_append (a : EventAggregator) (p : Progress) {l m : List Event}
    (h : Event.BlocksBefore l m) :
    a.foldEvents p (l ++ m) = a.foldEvents (a.foldEvents p l) m := by
  induction l generalizing p with
  | nil => rfl
  | cons e l ih =>
    have hgoesOn : e.blockGoesOn (l ++ m) = e.blockGoesOn l := by
      cases l with
      | cons x l => rfl
      | nil =>
        cases m with
        | nil => rfl
        | cons y m =>
          have hlt := h e (by simp) y (by simp)
          simp [Event.blockGoesOn, (UInt64.ne_of_lt hlt).symm]
    rw [List.cons_append, foldEvents, foldEvents, hgoesOn]
    exact ih _ fun x hx => h x (by simp [hx])

section SameEvents

variable (a : EventAggregator) {s : AggregateState} {ledgers : List LedgerRecord}
  {events other : List Event}

/-- Lists from which the same events are taken are the same window. -/
theorem window_of_ordered (h : Event.ordered events = Event.ordered other) :
    a.window s events ledgers = a.window s other ledgers := by
  unfold window
  rw [h]

theorem checkWindow_of_ordered (h : Event.ordered events = Event.ordered other) :
    checkWindow s events = checkWindow s other := by
  unfold checkWindow
  rw [h]

variable (s ledgers)

/-- A window is the set of its events. Whoever reads them in another order, or some of them more
than once, is refused for the same reason or arrives at the same state by the same change. -/
theorem apply_eq_of_same_events (hplaces : Event.OnePerPlace events)
    (hsame : ∀ e, e ∈ events ↔ e ∈ other) :
    a.apply s events ledgers = a.apply s other ledgers := by
  have hordered := Event.ordered_eq_of_same hplaces hsame
  rw [apply_eq, apply_eq, checkWindow_of_ordered hordered, a.window_of_ordered hordered]

end SameEvents

/-- A report behind its block's deposit, a transfer of a later block before both, and the
deposit once more. -/
def repeatedEvents : List Event :=
  [⟨2, 0, .transfer .zero (.ofNat 1) (.ofUInt64 9)⟩, ⟨1, 0, .deposited (.ofNat 1) (.ofUInt64 9)⟩,
    ⟨1, 1, .rewards (.ofNat 7) (.ofUInt64 5) (.ofUInt64 94)⟩,
    ⟨1, 0, .deposited (.ofNat 1) (.ofUInt64 9)⟩]

def eventsByPlace : List Event :=
  [⟨1, 0, .deposited (.ofNat 1) (.ofUInt64 9)⟩,
    ⟨1, 1, .rewards (.ofNat 7) (.ofUInt64 5) (.ofUInt64 94)⟩,
    ⟨2, 0, .transfer .zero (.ofNat 1) (.ofUInt64 9)⟩]

theorem apply_eq_of_same_events_repeated :
    Event.OnePerPlace repeatedEvents ∧ (∀ e, e ∈ repeatedEvents ↔ e ∈ eventsByPlace) ∧
      (EventAggregator.ofConstants .standard 1).apply (.empty .parachain) repeatedEvents []
        = (EventAggregator.ofConstants .standard 1).apply (.empty .parachain) eventsByPlace [] := by
  have hplaces : Event.OnePerPlace repeatedEvents := by decide
  have hsame : ∀ e, e ∈ repeatedEvents ↔ e ∈ eventsByPlace := by
    intro e
    simp only [repeatedEvents, eventsByPlace, List.mem_cons, List.not_mem_nil, or_false]
    tauto
  exact ⟨hplaces, hsame, apply_eq_of_same_events _ _ _ hplaces hsame⟩

end EventAggregator
end StakingIndexer
