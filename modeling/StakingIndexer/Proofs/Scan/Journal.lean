import Mathlib
import StakingIndexer.Proofs.Aggregate.Tally
import StakingIndexer.Proofs.Scan.EventsWorld

/-!
# Journals of commits

A scanner that is not ahead of the store commits a window that begins at or before the first
block behind the stored position. Windows of such commits leave no block out, but they may
overlap. An event is counted more than once if and only if a commit holds it that finds it
stored already.
-/

namespace StakingIndexer

/-- A commit that was let through: the stored position that it found, and its window. -/
structure AppliedCommit where
  found : UInt64
  window : BlockWindow

/-- The commits that scanners have made, oldest first, and the position behind them. No scanner
is ahead of the store, or before the first position. -/
inductive Journal (initialBlock : UInt64) : List AppliedCommit → UInt64 → Prop
  | nil : Journal initialBlock [] (EventsTarget.initialCursor initialBlock)
  | snoc {journal : List AppliedCommit} {position cursor last : UInt64}
      (before : Journal initialBlock journal position)
      (hbegun : EventsTarget.initialCursor initialBlock ≤ cursor)
      (hcursor : cursor ≤ position) (hlast : position < last) :
      Journal initialBlock (journal ++ [⟨position, ⟨cursor + 1, last⟩⟩]) last

namespace Journal

/-- The events that commits have counted, with repetitions. -/
def taken (events : List Event) (journal : List AppliedCommit) : List Event :=
  journal.flatMap fun c => Event.counted c.window events

/-- No commit holds a counted event at or before the position that it found. -/
def NoneRepeated (events : List Event) (journal : List AppliedCommit) : Prop :=
  ∀ c ∈ journal, ∀ e ∈ Event.counted c.window events, c.found < e.block

theorem taken_snoc (events : List Event) (journal : List AppliedCommit) (c : AppliedCommit) :
    taken events (journal ++ [c]) = taken events journal ++ Event.counted c.window events := by
  simp [taken]

theorem noneRepeated_snoc {events : List Event} {journal : List AppliedCommit}
    {c : AppliedCommit} :
    NoneRepeated events (journal ++ [c]) ↔
      NoneRepeated events journal ∧ ∀ e ∈ Event.counted c.window events, c.found < e.block := by
  simp only [NoneRepeated, List.mem_append, List.mem_singleton, or_imp, forall_and,
    forall_eq]

variable {events : List Event} (hkeys : (events.map Event.key).Nodup) {initialBlock : UInt64}
  {journal : List AppliedCommit} {position : UInt64}

theorem begun (h : Journal initialBlock journal position) :
    EventsTarget.initialCursor initialBlock ≤ position := by
  cases h with
  | nil => exact UInt64.le_refl _
  | snoc before hbegun hcursor hlast =>
    exact UInt64.le_trans (UInt64.le_trans hbegun hcursor) (UInt64.le_of_lt hlast)

theorem counted_initialCursor :
    Event.counted ⟨max initialBlock 1, EventsTarget.initialCursor initialBlock⟩ events = [] := by
  unfold Event.counted
  rw [Event.within_of_lt (EventsTarget.initialCursor_lt _), Event.ordered_nil]

include hkeys

/-- The window behind a cursor that is not ahead adds exactly the blocks behind the position. -/
theorem mem_counted_snoc {cursor last : UInt64}
    (hbegun : EventsTarget.initialCursor initialBlock ≤ cursor) (hcursor : cursor ≤ position)
    (hlast : position < last) (e : Event) :
    e ∈ Event.counted ⟨max initialBlock 1, last⟩ events ↔
      e ∈ Event.counted ⟨max initialBlock 1, position⟩ events ∨
        e ∈ Event.counted ⟨cursor + 1, last⟩ events := by
  have hcursorLast := UInt64.lt_of_le_of_lt hcursor hlast
  have hfirst := EventsTarget.first_le_succ hbegun hcursorLast
  have hsucc := Word.succ_le_iff hcursorLast e.block
  simp only [Event.mem_counted hkeys, hsucc]
  simp only [UInt64.le_iff_toNat_le, UInt64.lt_iff_toNat_lt, Word.toNat_succ hcursorLast] at *
  constructor
  · rintro ⟨he, hmin, hmax⟩
    by_cases hposition : e.block.toNat ≤ position.toNat
    · exact .inl ⟨he, hmin, hposition⟩
    · exact .inr ⟨he, by omega, hmax⟩
  · rintro (⟨he, hmin, hmax⟩ | ⟨he, hmin, hmax⟩)
    · exact ⟨he, hmin, by omega⟩
    · exact ⟨he, by omega, hmax⟩

/-- No event up to the position is left out, and no other one is counted. -/
theorem mem_taken (h : Journal initialBlock journal position) (e : Event) :
    e ∈ taken events journal ↔ e ∈ Event.counted ⟨max initialBlock 1, position⟩ events := by
  induction h with
  | nil => rw [counted_initialCursor]; rfl
  | snoc before hbegun hcursor hlast ih =>
    rw [taken_snoc, List.mem_append, ih, mem_counted_snoc hkeys hbegun hcursor hlast]

theorem not_mem_taken (h : Journal initialBlock journal position) {e : Event}
    (he : position < e.block) : e ∉ taken events journal := by
  rw [mem_taken hkeys h, Event.mem_counted hkeys]
  rintro ⟨-, -, hle⟩
  exact UInt64.not_le.2 he hle

/-- Every event is counted once if and only if no commit repeats one. -/
theorem count_taken_eq_one_iff (h : Journal initialBlock journal position) :
    (∀ e ∈ Event.counted ⟨max initialBlock 1, position⟩ events,
        (taken events journal).count e = 1) ↔ NoneRepeated events journal := by
  induction h with
  | nil =>
    rw [counted_initialCursor]
    simp [NoneRepeated]
  | @snoc journal position cursor last before hbegun hcursor hlast ih =>
    have hmem := mem_counted_snoc hkeys hbegun hcursor hlast
    have hwindow : (Event.counted ⟨cursor + 1, last⟩ events).Nodup := Event.nodup_counted _ _
    rw [noneRepeated_snoc, ← ih]
    simp only [taken_snoc, List.count_append, hwindow.count]
    constructor
    · intro hone
      refine ⟨fun e he => ?_, fun e he => ?_⟩
      · have hcount := hone e ((hmem e).2 (.inl he))
        have hpos := List.count_pos_iff.2 ((mem_taken hkeys before e).2 he)
        omega
      · -- an event of an older block would have been counted before
        by_contra hle
        have hold : e ∈ Event.counted ⟨max initialBlock 1, position⟩ events := by
          have hnew := (hmem e).2 (.inr he)
          rw [Event.mem_counted hkeys] at hnew ⊢
          exact ⟨hnew.1, hnew.2.1, UInt64.not_lt.1 hle⟩
        have hcount := hone e ((hmem e).2 (.inr he))
        have hpos := List.count_pos_iff.2 ((mem_taken hkeys before e).2 hold)
        rw [if_pos he] at hcount
        omega
    · rintro ⟨hone, hnew⟩ e he
      by_cases hwin : e ∈ Event.counted ⟨cursor + 1, last⟩ events
      · rw [if_pos hwin, List.count_eq_zero.2 (not_mem_taken hkeys before (hnew e hwin))]
      · rw [if_neg hwin, hone e (((hmem e).1 he).resolve_right hwin)]

/-- Without repetitions, the commits together count like one window. -/
theorem taken_of_noneRepeated (h : Journal initialBlock journal position)
    (hnone : NoneRepeated events journal) :
    taken events journal = Event.counted ⟨max initialBlock 1, position⟩ events := by
  refine Event.eq_of_pairwise_before ?_ (Event.pairwise_ordered _) (mem_taken hkeys h)
  induction h with
  | nil => exact .nil
  | @snoc journal position cursor last before hbegun hcursor hlast ih =>
    obtain ⟨hold, hnew⟩ := noneRepeated_snoc.1 hnone
    rw [taken_snoc]
    refine List.pairwise_append.2 ⟨ih hold, Event.pairwise_ordered _, fun d hd e he => .inl ?_⟩
    have hle := ((Event.mem_counted hkeys).1 ((mem_taken hkeys before d).1 hd)).2.2
    exact UInt64.lt_of_le_of_lt hle (hnew e he)

end Journal

end StakingIndexer
