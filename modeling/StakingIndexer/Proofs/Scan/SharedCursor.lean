import Mathlib
import StakingIndexer.Proofs.Scan.Calls

/-!
# A loop and its cursor in the store

A store compares its cursor with the block of a commit, and advances it if the block lies beyond.
Other writers may do the same at any time. A step of a loop then leaves its cursor where it is,
moves it to the end of the window behind it, or takes over a position that is not before this
end.
-/

namespace StakingIndexer

/-- What a commit of a block does to a stored position while others write: a block beyond
the position that is found becomes the position, and else the position stays. -/
inductive Advance (writes : Option UInt64 → Option UInt64 → Prop) (block : UInt64)
    (p : Option UInt64) : Except StoreError CommitOutcome → Option UInt64 → Prop
  | applied {q r : Option UInt64} (hbefore : writes p q) (hnew : q < some block)
      (hafter : writes (some block) r) : Advance writes block p (.ok .applied) r
  | refused {q r : Option UInt64} (hbefore : writes p q) (hold : some block ≤ q)
      (hafter : writes q r) : Advance writes block p (.ok .alreadyApplied) r
  | failed (e : StoreError) {q : Option UInt64} (hwrites : writes p q) :
      Advance writes block p (.error e) q

/-- What a loop does to its world other than through its store. -/
inductive ScanLoop.Touches {ω : Type} (l : ScanLoop ω) (w : ω) : ω → Prop
  | currentHeight : l.Touches w (l.target.currentHeight w).2
  | hydrate (state : AggregateState) : l.Touches w (l.target.hydrate state w).2
  | scan (window : BlockWindow) (state : AggregateState) :
    l.Touches w (l.target.scan window state w).2
  | publish (g : Gauge) : l.Touches w (l.publish g w)

/-- The cursor of a loop in a store that compares and advances it, and what other writers
may do to it while the loop works: whatever the loop waits for, they may move the cursor in
the meantime, but forward only. A cursor that is read is answered as it stands at some time
during the call. -/
structure SharedCursor {ω : Type} (l : ScanLoop ω) where
  stored : ω → Option UInt64
  writes : Option UInt64 → Option UInt64 → Prop
  refl : ∀ p, writes p p
  trans : ∀ {p q r}, writes p q → writes q r → writes p r
  forward : ∀ {p q}, writes p q → p ≤ q
  touches : ∀ {w w'}, l.Touches w w' → writes (stored w) (stored w')
  loadState : ∀ w, writes (stored w) (stored (l.store.loadState l.target.chain w).2)
  loadCursor : ∀ w, ∃ p, writes (stored w) p ∧
    writes p (stored (l.store.loadCursor l.target.chain l.target.id w).2) ∧
      ∀ answer, (l.store.loadCursor l.target.chain l.target.id w).1 = .ok answer →
        answer.map (·.block) = p
  commit : ∀ block now delta w, Advance writes block (stored w)
    (l.store.commit ⟨l.target.chain, l.target.id, block, now⟩ delta w).1
    (stored (l.store.commit ⟨l.target.chain, l.target.id, block, now⟩ delta w).2)

namespace MemoryStore

def block? (s : MemoryStore) (chain : Chain) (target : TargetId) : Option UInt64 :=
  (s.cursor chain target).map (·.block)

theorem isNew_iff_lt (s : MemoryStore) (c : ScanCursor) :
    s.isNew c ↔ s.block? c.chain c.target < some c.block := by
  rw [isNew_iff, block?]
  cases s.cursor c.chain c.target <;> simp

theorem block?_apply (s : MemoryStore) (c : ScanCursor) (d : AggregateDelta) :
    (s.apply c d).block? c.chain c.target = some c.block := by
  rw [block?, cursor_apply, if_pos ⟨rfl, rfl⟩]
  rfl

variable {writes : Option UInt64 → Option UInt64 → Prop}

/-- A commit compares and advances its cursor. -/
theorem advance_commit (hrefl : ∀ p, writes p p) (s : MemoryStore) (c : ScanCursor)
    (d : AggregateDelta) :
    Advance writes c.block (s.block? c.chain c.target) (MemoryStore.commit c d s).1
      ((MemoryStore.commit c d s).2.block? c.chain c.target) := by
  obtain ⟨e, n, h⟩ | ⟨hnew, h⟩ | ⟨hnew, h⟩ := s.commit_cases c d
  · rw [h]
    exact .failed e (hrefl _)
  · rw [h]
    refine .applied (hrefl _) ((s.isNew_iff_lt c).1 hnew) ?_
    rw [block?_apply]
    exact hrefl _
  · rw [h]
    refine .refused (hrefl _) ?_ (hrefl _)
    rw [isNew_iff_lt] at hnew
    cases hblock : s.block? c.chain c.target with
    | none => exact absurd (by rw [hblock]; trivial) hnew
    | some stored =>
      rw [hblock, Option.some_lt_some] at hnew
      exact Option.some_le_some.2 (UInt64.not_lt.1 hnew)

end MemoryStore

namespace SharedCursor

section

variable {ω : Type} {l : ScanLoop ω}

/-- The cursor of a loop over a store in memory, with whatever others do to it. -/
def ofMemory (get : ω → MemoryStore) (set : MemoryStore → ω → ω)
    (get_set : ∀ s w, get (set s w) = s) (store_eq : l.store = MemoryStore.store.onPart get set)
    (writes : Option UInt64 → Option UInt64 → Prop) (refl : ∀ p, writes p p)
    (trans : ∀ {p q r}, writes p q → writes q r → writes p r)
    (forward : ∀ {p q}, writes p q → p ≤ q)
    (touches : ∀ {w w'}, l.Touches w w' → writes ((get w).block? l.target.chain l.target.id)
      ((get w').block? l.target.chain l.target.id)) : SharedCursor l where
  stored w := (get w).block? l.target.chain l.target.id
  writes
  refl
  trans
  forward
  touches
  loadState w := by
    rw [store_eq]
    change writes _ ((get (set (get w) w)).block? _ _)
    rw [get_set]
    exact refl _
  loadCursor w := by
    rw [store_eq]
    refine ⟨_, refl _, ?_, fun answer hanswer => ?_⟩
    · change writes _ ((get (set (get w) w)).block? _ _)
      rw [get_set]
      exact refl _
    · cases hanswer
      rfl
  commit block now delta w := by
    rw [store_eq]
    have h := MemoryStore.advance_commit refl (get w) ⟨l.target.chain, l.target.id, block, now⟩
      delta
    change Advance writes block _ (MemoryStore.commit _ delta (get w)).1
      ((get (set (MemoryStore.commit _ delta (get w)).2 w)).block? _ _)
    rw [get_set]
    exact h

end

variable {ω : Type} {l : ScanLoop ω} (c : SharedCursor l) {w : ω} {b : BlockScanner}

theorem publishAll (gauges : List Gauge) (w : ω) :
    c.writes (c.stored w) (c.stored (BlockScanner.publishAll l gauges w)) := by
  unfold BlockScanner.publishAll
  induction gauges generalizing w with
  | nil => exact c.refl _
  | cons g gauges ih => exact c.trans (c.touches (.publish g)) (ih (l.publish g w))

theorem loadedState (w : ω) :
    c.writes (c.stored w) (c.stored (BlockScanner.loadState l w).2) := by
  have hload := c.loadState w
  unfold BlockScanner.loadState
  rw [Action.bind_eq]
  unfold Action.mapError
  dsimp only
  generalize l.store.loadState l.target.chain w = r at hload ⊢
  obtain ⟨e | stored, w'⟩ := r
  · exact hload
  · exact c.trans hload (c.touches (.hydrate _))

/-- What a reload does to a scanner with a cursor and a range, from one stored position to
another one: the cursor is not read, or it is the scanner's, if it is stored. -/
inductive ReloadEffect (cursor range : UInt64) (p : Option UInt64) :
    Except ScanError Unit → BlockScanner → Option UInt64 → Prop
  | unread (e : ScanError) {b : BlockScanner} {q : Option UInt64} (hcursor : b.cursor = cursor)
      (hrange : b.range = range) (hwrites : c.writes p q) :
      ReloadEffect cursor range p (.error e) b q
  | read {answer : Except ScanError Unit} {b : BlockScanner} {q r : Option UInt64}
      (hcursor : b.cursor = q.getD cursor) (hrange : b.range = range) (hbefore : c.writes p q)
      (hafter : c.writes q r) : ReloadEffect cursor range p answer b r

theorem reload_effect (b : BlockScanner) (w : ω) :
    c.ReloadEffect b.cursor b.range (c.stored w) (BlockScanner.reload l b w).1
      (BlockScanner.reload l b w).2.1 (c.stored (BlockScanner.reload l b w).2.2) := by
  obtain ⟨p, hbefore, hafter, hanswer⟩ := c.loadCursor w
  unfold BlockScanner.reload
  generalize l.store.loadCursor l.target.chain l.target.id w = r at hafter hanswer ⊢
  obtain ⟨e | answer, w'⟩ := r
  · exact .unread _ rfl rfl (c.trans hbefore hafter)
  · obtain rfl := hanswer answer rfl
    have hload := c.loadedState w'
    dsimp only
    generalize BlockScanner.loadState l w' = r at hload ⊢
    obtain ⟨e | state, w''⟩ := r
    all_goals
      refine .read ?_ ?_ hbefore (c.trans hafter hload)
      all_goals cases answer <;> rfl

theorem new_effect {w₀ : ω} (h : BlockScanner.new l w₀ = (.ok b, w)) :
    b.range = BlockScanner.fullRange l ∧
      ∃ p, c.writes p (c.stored w) ∧ b.cursor = p.getD l.target.initialCursor := by
  have hreload := c.reload_effect
    ⟨l.target.initialCursor, .empty l.target.chain, BlockScanner.fullRange l, 0, .idle⟩ w₀
  unfold BlockScanner.new at h
  dsimp only at h hreload
  generalize BlockScanner.reload l _ w₀ = r at h hreload
  obtain ⟨_ | _, b', w'⟩ := r
  · cases h
  · cases h
    dsimp only at hreload
    generalize hq : c.stored w = q at hreload
    cases hreload with
    | read hcursor hrange _ hafter => exact ⟨hrange, _, hq ▸ hafter, hcursor⟩

/-- What a step with some calls does to a scanner with a cursor and a range, from one stored
position to another one. Where the window is let through the scanner is at its end with a
full range; where the stored position was at that end or beyond it, it is taken over. -/
inductive StepEffect (cursor range : UInt64) (calls : List ChainCall) (p : Option UInt64) :
    Except ScanError StepOutcome → BlockScanner → Option UInt64 → Prop
  | stayed {outcome : Except ScanError StepOutcome} {b : BlockScanner} {q : Option UInt64}
      (hcommitted : ∀ window, outcome ≠ .ok (.committed window))
      (hoverrun : ∀ window, outcome ≠ .ok (.alreadyApplied window))
      (hcursor : b.cursor = cursor) (hrange : b.range = range) (hwrites : c.writes p q) :
      StepEffect cursor range calls p outcome b q
  | committed {window : BlockWindow} {b : BlockScanner} {r : Option UInt64}
      (hscan : .scan window ∈ calls) (hlast : cursor < window.last)
      (hcursor : b.cursor = window.last) (hrange : b.range = BlockScanner.fullRange l)
      (hafter : c.writes (some window.last) r) :
      StepEffect cursor range calls p (.ok (.committed window)) b r
  | overrun {outcome : Except ScanError StepOutcome} {window : BlockWindow} {b : BlockScanner}
      {q r : Option UInt64} (hcommitted : ∀ window, outcome ≠ .ok (.committed window))
      (hlast : cursor < window.last) (hbefore : c.writes p q) (hold : some window.last ≤ q)
      (hcursor : window.last ≤ b.cursor) (hrange : b.range = range) :
      StepEffect cursor range calls p outcome b r

theorem StepEffect.failed {cursor range : UInt64} {calls : List ChainCall} {p q : Option UInt64}
    (e : ScanError) (hcursor : b.cursor = cursor) (hrange : b.range = range)
    (hwrites : c.writes p q) : c.StepEffect cursor range calls p (.error e) b q :=
  .stayed (fun _ h => by cases h) (fun _ h => by cases h) hcursor hrange hwrites

/-- A cursor that is read behind a refused window stands at its end or beyond it. -/
theorem le_getD_of_refused {block cursor : UInt64} {p q : Option UInt64} (hold : some block ≤ p)
    (hwrites : c.writes p q) : block ≤ q.getD cursor := by
  have hforward := c.forward hwrites
  cases p with
  | none => exact absurd hold Option.not_some_le_none
  | some p =>
    cases q with
    | none => exact absurd hforward Option.not_some_le_none
    | some q => exact UInt64.le_trans (Option.some_le_some.1 hold) (Option.some_le_some.1 hforward)

theorem commit_effect {window : BlockWindow} {calls : List ChainCall} {p : Option UInt64}
    (hscan : .scan window ∈ calls) (hlast : b.cursor < window.last) (hp : c.writes p (c.stored w))
    (out : ScanOutput) :
    c.StepEffect b.cursor b.range calls p (BlockScanner.commit l window out b w).1
      (BlockScanner.commit l window out b w).2.1
      (c.stored (BlockScanner.commit l window out b w).2.2) := by
  have hcommit := c.commit window.last (l.now w) out.delta w
  unfold BlockScanner.commit
  dsimp only
  generalize l.store.commit ⟨l.target.chain, l.target.id, window.last, l.now w⟩ out.delta w = r
    at hcommit ⊢
  obtain ⟨outcome, w'⟩ := r
  dsimp only at hcommit
  generalize hr : c.stored w' = r at hcommit
  cases hcommit with
  | failed e hwrites =>
    subst hr
    exact .failed c _ rfl rfl (c.trans hp hwrites)
  | applied hbefore hnew hafter =>
    subst hr
    exact .committed hscan hlast rfl rfl (c.trans hafter (c.publishAll _ w'))
  | refused hbefore hold hafter =>
    subst hr
    have hreload := c.reload_effect { b with phase := .committing window } w'
    dsimp only
    generalize BlockScanner.reload l { b with phase := .committing window } w' = r at hreload ⊢
    obtain ⟨answer, b', w''⟩ := r
    dsimp only at hreload
    generalize hs : c.stored w'' = s at hreload
    cases hreload with
    | unread e hcursor hrange hwrites =>
      subst hs
      exact .failed c _ hcursor hrange (c.trans hp (c.trans hbefore (c.trans hafter hwrites)))
    | read hcursor hrange hread hlater =>
      subst hs
      have hreached : window.last ≤ b'.cursor :=
        hcursor ▸ c.le_getD_of_refused hold (c.trans hafter hread)
      -- the position was read, whether or not the state was
      cases answer
      all_goals
        exact .overrun (fun _ h => by cases h) hlast (c.trans hp hbefore) hold hreached hrange

theorem step_effect (b : BlockScanner) (hrange : 1 ≤ b.range) (w : ω) :
    c.StepEffect b.cursor b.range (BlockScanner.calls l b w) (c.stored w)
      (BlockScanner.step l b w).1 (BlockScanner.step l b w).2.1
      (c.stored (BlockScanner.step l b w).2.2) := by
  have hheight := c.touches (.currentHeight (w := w))
  rw [BlockScanner.calls_eq]
  unfold BlockScanner.step BlockScanner.asked
  dsimp only
  generalize l.target.currentHeight w = r at hheight ⊢
  obtain ⟨e | height, w₁⟩ := r
  · exact .failed c _ rfl rfl hheight
  · dsimp only
    cases hnext : Scan.nextWindow l.target.kind b.cursor height b.range with
    | none => exact .stayed (fun _ h => by cases h) (fun _ h => by cases h) rfl rfl hheight
    | some window =>
      have hscan := c.trans hheight (c.touches (.scan window b.state))
      dsimp only
      generalize l.target.scan window b.state w₁ = r at hscan ⊢
      obtain ⟨out | e | _ | _, w₂⟩ := r
      · exact c.commit_effect (b := { b with phase := .scanning window }) (by simp)
          (Scan.follows_of_nextWindow hrange hnext).lt_last hscan out
      · exact .failed c _ rfl rfl hscan
      all_goals exact .stayed (fun _ h => by cases h) (fun _ h => by cases h) rfl rfl hscan

end SharedCursor

end StakingIndexer
