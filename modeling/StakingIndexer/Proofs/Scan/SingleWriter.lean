import Mathlib
import StakingIndexer.Proofs.Aggregate.Totals
import StakingIndexer.Proofs.Scan.LocalWorld

/-!
# A store with one writer

One scanner at a time writes to a store that was empty: it steps, recovers from errors, meets
nodes that fail or fall back, and is dropped and started anew between its steps. At each point
the store holds what one fold of all events up to the stored cursor leads to. Behind this is
that the scanner is where the store is, in its cursor and in the totals of its state.
-/

namespace StakingIndexer

namespace EventsWorld

variable {ω : Type} {events : List Event} (x : EventsWorld ω events)

def foldUpTo (s : MemoryStore) : AppliedWindow :=
  x.aggregator.window (.empty x.chain) (x.upTo (x.position s)) []

/-- The store holds what one fold leads to. -/
structure Exact (s : MemoryStore) : Prop where
  begun : EventsTarget.initialCursor x.initialBlock ≤ x.position s
  chain : (s.aggregate x.chain).chain = x.chain
  foldable : EventAggregator.checkWindow (.empty x.chain) (x.upTo (x.position s)) = .ok ()
  totals : (s.aggregate x.chain).totals = (x.foldUpTo s).state.totals
  rewards : s.rewards = (x.foldUpTo s).delta.rewardRows

/-- The scanner is where the store is. -/
structure Follows (s : MemoryStore) (b : BlockScanner) : Prop where
  cursor : b.cursor = x.position s
  chain : b.state.chain = x.chain
  totals : b.state.totals = (s.aggregate x.chain).totals

variable {x} {s : MemoryStore} {b : BlockScanner}

theorem exact_empty : x.Exact .empty := by
  have hfold : x.foldUpTo .empty = ⟨.empty x.chain, { chain := x.chain }⟩ := by
    unfold foldUpTo
    rw [position_empty, upTo_initialCursor, EventAggregator.window_nil]
    rfl
  refine ⟨?_, ?_, ?_, ?_, ?_⟩
  · rw [position_empty]
    exact UInt64.le_refl _
  · rw [MemoryStore.aggregate_empty]
    rfl
  · rw [position_empty, upTo_initialCursor]
    simp [EventAggregator.checkWindow, EventAggregator.checkFresh,
      EventAggregator.checkReports, Event.ordered_nil, Except.bind]
  · rw [MemoryStore.aggregate_empty, hfold]
  · rw [hfold]
    rfl

theorem follows_restored (h : x.Exact s) (b : BlockScanner) (hcursor : b.cursor = x.position s)
    (rows : List RewardRow) (hstate : b.state = (s.aggregate x.chain).withHistory rows) :
    x.Follows s b := by
  refine ⟨hcursor, ?_, ?_⟩
  · rw [hstate]
    exact h.chain
  · rw [hstate, AggregateState.totals_withHistory]

theorem foldUpTo_apply (hkeys : (events.map Event.key).Nodup) (h : x.Exact s)
    (hb : x.Follows s b) {last : UInt64} {answer : List Event} {applied : AppliedWindow}
    (hlast : b.cursor < last)
    (hanswer : answer.Perm (Event.within ⟨b.cursor + 1, last⟩ events))
    (happly : x.aggregator.apply b.state answer [] = .ok applied) :
    EventAggregator.checkWindow (.empty x.chain) (x.upTo last) = .ok () ∧
      (x.aggregator.window (.empty x.chain) (x.upTo last) []).state.totals
        = applied.state.totals ∧
      (x.aggregator.window (.empty x.chain) (x.upTo last) []).delta.rewardRows
        = s.rewards ++ applied.delta.rewardRows := by
  obtain ⟨hcheck, rfl⟩ := EventAggregator.apply_eq_ok_iff.1 happly
  rw [hb.cursor] at hlast hanswer
  have hordered : Event.ordered answer
      = Event.ordered (Event.within ⟨x.position s + 1, last⟩ events) :=
    Event.ordered_perm hanswer
      ((hanswer.map Event.key).nodup_iff.2 (Event.nodup_keys_within hkeys _))
  have hwhole : Event.ordered (x.upTo last)
      = Event.ordered (x.upTo (x.position s)
        ++ Event.within ⟨x.position s + 1, last⟩ events) :=
    Event.ordered_perm
      (Event.within_perm_append (EventsTarget.first_le_succ h.begun hlast) hlast events)
      (Event.nodup_keys_within hkeys _)
  have hbefore : Event.BlocksBefore (x.upTo (x.position s))
      (Event.within ⟨x.position s + 1, last⟩ events) :=
    Event.blocksBefore_within (UInt64.le_refl _)
      (by
        rw [UInt64.lt_iff_toNat_lt, Word.toNat_succ hlast]
        exact Nat.lt_succ_self _) events
  have htotals : (x.foldUpTo s).state.totals = b.state.totals := by
    rw [hb.totals, h.totals]
  refine ⟨?_, ?_, ?_⟩
  · rw [EventAggregator.checkWindow_of_ordered hwhole,
      EventAggregator.checkWindow_append x.aggregator _ hbefore, h.foldable]
    change EventAggregator.checkWindow (x.foldUpTo s).state _ = _
    rw [EventAggregator.checkWindow_of_totals htotals,
      ← EventAggregator.checkWindow_of_ordered hordered]
    exact hcheck
  · rw [EventAggregator.window_of_ordered _ hwhole,
      EventAggregator.window_append x.aggregator _ hbefore,
      EventAggregator.window_of_ordered _ hordered]
    exact EventAggregator.totals_window _ htotals
  · rw [EventAggregator.window_of_ordered _ hwhole,
      EventAggregator.window_append x.aggregator _ hbefore, h.rewards,
      EventAggregator.rewardRows_window _ b.state, hordered]
    change (x.foldUpTo s).delta.rewardRows ++ _ = _
    rw [EventAggregator.rewardRows_window]

/-- A step keeps a scanner with its store, and the store exact. -/
theorem exact_of_stepEffect (hkeys : (events.map Event.key).Nodup) (h : x.Exact s)
    (hb : x.Follows s b) {outcome : Except ScanError StepOutcome} {b' : BlockScanner}
    {s' : MemoryStore}
    (hstep : StepEffect x.aggregator x.chain events b.cursor b.state s outcome b' s') :
    x.Exact s' ∧ x.Follows s' b' := by
  cases hstep with
  | kept faults houtcome hcursor hstate =>
    refine ⟨⟨h.begun, h.chain, h.foldable, h.totals, h.rewards⟩, hcursor.trans hb.cursor, ?_, ?_⟩
    · rw [hstate]
      exact hb.chain
    · rw [hstate]
      exact hb.totals
  | reloaded rows hstored hcursor hstate =>
    refine ⟨h, follows_restored h b' ?_ rows hstate⟩
    rw [hcursor, position, MemoryStore.position, hstored]
  | @committed _ last answer applied now hlast hanswer happly hnew hcursor hstate =>
    obtain ⟨hcheck, htotals, hrewards⟩ := foldUpTo_apply hkeys h hb hlast hanswer happly
    obtain ⟨hstateChain, hdeltaChain⟩ := EventAggregator.chain_of_apply happly
    have hchain : applied.delta.chain = x.chain := hdeltaChain.trans hb.chain
    have hposition := x.position_apply s last now applied.delta
    have hstored : ((s.apply ⟨x.chain, .events, last, now⟩ applied.delta).aggregate
        x.chain).totals = applied.state.totals := by
      obtain ⟨-, rfl⟩ := EventAggregator.apply_eq_ok_iff.1 happly
      rw [MemoryStore.aggregate_apply s _ hchain, AggregateState.totals_applyDelta hb.totals.symm,
        EventAggregator.totals_applyDelta_window]
    refine ⟨⟨?_, ?_, ?_, ?_, ?_⟩, ?_, ?_, ?_⟩
    · rw [hposition]
      exact UInt64.le_trans (hb.cursor ▸ h.begun) (UInt64.le_of_lt hlast)
    · rw [MemoryStore.aggregate_apply s _ hchain]
      exact h.chain
    · rw [hposition]
      exact hcheck
    · rw [hstored, foldUpTo, hposition, htotals]
    · rw [foldUpTo, hposition, hrewards]
      rfl
    · rw [hcursor, hposition]
    · rw [hstate, hstateChain]
      exact hb.chain
    · rw [hstate, hstored]

variable (x) in
/-- What can happen to a scanner and the world that it works on. An error may shrink the
range; the world moves on by itself: the height, the faults of nodes and store, the time;
and a scanner that is dropped is started again over the same store. -/
inductive Move : BlockScanner × ω → BlockScanner × ω → Prop
  | step (config : ScannerConfig) (b : BlockScanner) (w : ω) :
      Move (b, w) (BlockScanner.step (x.loop config) b w).2
  | recover (config : ScannerConfig) (e : ScanError) (b : BlockScanner) (w : ω) :
      Move (b, w) (BlockScanner.onError (x.loop config) e b w).2
  | drift (b : BlockScanner) {w w' : ω} (faults : Nat) (hserves : x.serves w')
      (hstored : x.stored w' = (x.stored w).failNextCommits faults) : Move (b, w) (b, w')
  | restart (config : ScannerConfig) (b : BlockScanner) {w : ω} {b' : BlockScanner} {w' : ω}
      (hnew : BlockScanner.new (x.loop config) w = (.ok b', w')) : Move (b, w) (b', w')

variable (x) in
/-- What a scanner and its world can come to, from a store that is empty. -/
inductive Reachable : BlockScanner × ω → Prop
  | start (config : ScannerConfig) {w : ω} {b : BlockScanner} {w' : ω} (hserves : x.serves w)
      (hempty : x.stored w = .empty) (hnew : BlockScanner.new (x.loop config) w = (.ok b, w')) :
      Reachable (b, w')
  | move {p q : BlockScanner × ω} (hp : Reachable p) (hmove : Move x p q) : Reachable q

/-- What holds between the moves of a single writer. -/
def Settled (x : EventsWorld ω events) (p : BlockScanner × ω) : Prop :=
  ∃ s, x.Holds s p.2 ∧ x.Exact s ∧ x.Follows s p.1

theorem settled_new (config : ScannerConfig) {w : ω} (hw : x.Holds s w) (h : x.Exact s)
    {w' : ω} (hnew : BlockScanner.new (x.loop config) w = (.ok b, w')) : x.Settled (b, w') := by
  obtain ⟨w₁, hw₁, heq⟩ := new_eq config hw
  rw [heq] at hnew
  cases hnew
  exact ⟨s, hw₁, h, follows_restored h _ rfl _ rfl⟩

theorem settled_move (hkeys : (events.map Event.key).Nodup) {p q : BlockScanner × ω}
    (h : x.Settled p) (hmove : x.Move p q) : x.Settled q := by
  obtain ⟨s, hw, hs, hb⟩ := h
  cases hmove with
  | step config b w =>
    obtain ⟨s', hw', hstep⟩ := step_effect config hw b
    exact ⟨s', hw', exact_of_stepEffect hkeys hs hb hstep⟩
  | recover config e b w =>
    obtain ⟨hw', hcursor, hstate⟩ := onError_effect config hw e b
    exact ⟨s, hw', hs, hcursor.trans hb.cursor, hstate ▸ hb.chain, hstate ▸ hb.totals⟩
  | drift b faults hserves hstored =>
    refine ⟨s.failNextCommits faults, ⟨hserves, ?_⟩, ?_⟩
    · rw [hstored, hw.2]
    · exact ⟨⟨hs.begun, hs.chain, hs.foldable, hs.totals, hs.rewards⟩,
        ⟨hb.cursor, hb.chain, hb.totals⟩⟩
  | restart config b hnew => exact settled_new config hw hs hnew

theorem settled_of_reachable (hkeys : (events.map Event.key).Nodup) {p : BlockScanner × ω}
    (h : x.Reachable p) : x.Settled p := by
  induction h with
  | start config hserves hempty hnew =>
    exact settled_new config ⟨hserves, hempty⟩ exact_empty hnew
  | move _ hmove ih => exact settled_move hkeys ih hmove

theorem Reachable.pass {w : ω} (h : x.Reachable (b, w)) (config : ScannerConfig) :
    x.Reachable (BlockScanner.pass (x.loop config) b w).2 := by
  have hstep := h.move (.step config b w)
  unfold BlockScanner.pass
  generalize BlockScanner.step (x.loop config) b w = r at hstep ⊢
  obtain ⟨e | outcome, b', w'⟩ := r
  · exact hstep.move (.recover config e b' w')
  · exact hstep

/-- A loop that runs makes no other moves, if whoever watches its passes leaves the nodes and
the store alone. -/
theorem Reachable.run (hkeys : (events.map Event.key).Nodup) {w : ω} (h : x.Reachable (b, w))
    (config : ScannerConfig) (stopped : ω → Bool) {note : BlockScanner.Pass → ω → ω}
    (hnote : ∀ p w, x.serves w → x.serves (note p w) ∧ x.stored (note p w) = x.stored w)
    (passes : Nat) :
    x.Reachable (BlockScanner.run (x.loop config) stopped note passes b w) := by
  induction passes generalizing b w with
  | zero => exact h
  | succ passes ih =>
    have hpass := h.pass config
    unfold BlockScanner.run
    split_ifs
    · exact h
    · generalize BlockScanner.pass (x.loop config) b w = r at hpass ⊢
      obtain ⟨p, b', w'⟩ := r
      obtain ⟨s, hw, -⟩ := settled_of_reachable hkeys hpass
      obtain ⟨hserves, hstored⟩ := hnote p w' hw.1
      have hnoted : x.Reachable (b', note p w') :=
        hpass.move (.drift b' (x.stored w').failingCommits hserves hstored)
      dsimp only
      split_ifs
      · exact hnoted
      · exact ih hnoted

/-- However a single writer came to its stored cursor, the store holds what one fold of all
events up to this cursor leads to, and the reports of this fold in their order. -/
theorem stored_eq_fold (hkeys : (events.map Event.key).Nodup) {b : BlockScanner} {w : ω}
    (h : x.Reachable (b, w)) :
    ∃ one, x.aggregator.apply (.empty x.chain)
        (Event.within ⟨max x.initialBlock 1,
          (x.stored w).position x.chain x.initialBlock⟩ events) [] = .ok one ∧
      ((x.stored w).aggregate x.chain).totals = one.state.totals ∧
      (x.stored w).rewards = one.delta.rewardRows := by
  obtain ⟨s, ⟨-, rfl⟩, hs, -⟩ := settled_of_reachable hkeys h
  exact ⟨_, EventAggregator.apply_of_checkWindow _ [] hs.foldable, hs.totals, hs.rewards⟩

end EventsWorld

open LocalIndexer in
/-- A scanner that has stored a deposit and was then started anew. -/
theorem EventsWorld.stored_eq_fold_deposit :
    ∃ b w, depositWorld.Reachable (b, w) ∧
      (depositWorld.stored w).position .parachain 1 = 1 ∧
        ∃ one, depositWorld.aggregator.apply (.empty .parachain)
            (Event.within ⟨max 1 1, (depositWorld.stored w).position .parachain 1⟩
              [⟨1, 0, .deposited (.ofNat 2) (.ofUInt64 5)⟩]) [] = .ok one ∧
          ((depositWorld.stored w).aggregate .parachain).totals = one.state.totals ∧
          (depositWorld.stored w).rewards = one.delta.rewardRows := by
  have hempty : depositWorld.Holds .empty (depositChain 1 .empty) := ⟨rfl, rfl⟩
  obtain ⟨w₁, hw₁, hnew⟩ := EventsWorld.new_eq tenBlocks hempty
  have hstarted : depositWorld.Reachable (freshScanner, w₁) :=
    .start tenBlocks hempty.1 hempty.2 hnew
  have hready : depositWorld.Reachable (freshScanner, depositChain 1 .empty) :=
    hstarted.move (.drift _ 0 hempty.1 (by rw [hw₁.2]; rfl))
  obtain ⟨s, hs, hposition, -⟩ := EventsWorld.position_of_committed tenBlocks hempty
    (freshScanner_committed (.inl rfl) rfl (by decide))
  have hstepped := hready.move (.step tenBlocks _ _)
  obtain ⟨w₃, hw₃, hagain⟩ := EventsWorld.new_eq tenBlocks hs
  have hrestarted := hstepped.move (.restart tenBlocks _ hagain)
  refine ⟨_, _, hrestarted, ?_, EventsWorld.stored_eq_fold (by decide) hrestarted⟩
  rw [hw₃.2]
  exact hposition

end StakingIndexer
