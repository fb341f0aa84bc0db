import Mathlib
import StakingIndexer.Proofs.Aggregate.Replay

/-!
# Cutting windows

Events over many blocks may be folded as one window or as several, each onto the state that
the one before it left. The states agree, and the changes of the several windows compose to
the change of the one. What a window counts only at its end, its holders, is the reason why
a fold inside of a later window is compared with the same fold *behind* the earlier ones.
-/

namespace StakingIndexer
namespace EventAggregator

/-- A later fold as a part of a longer one: the change and the transfers of the events
before it are added, and the holders are as they were before those events. -/
def Progress.behind (d : AggregateDelta) (seen : Bool) (holders : UInt64) (p : Progress) :
    Progress :=
  { p with
    state := { p.state with holdersNumber := holders }
    delta := d.andThen p.delta
    sawTransfer := seen || p.sawTransfer }

section Behind

variable (d : AggregateDelta) (seen : Bool) (holders : UInt64) (p : Progress)

theorem changeHolder_behind (holder : Address) (change : Amount → Amount) :
    (p.behind d seen holders).changeHolder holder change
      = (p.changeHolder holder change).behind d seen holders := by
  unfold Progress.changeHolder
  split_ifs
  · rfl
  · simp [Progress.behind, Progress.setHolder, Progress.balanceOf, AggregateDelta.andThen,
      AddressMap.union_insert]

theorem move_behind (e : EventPayload) :
    (p.behind d seen holders).move e = (p.move e).behind d seen holders := by
  cases e with
  | transfer sender receiver value =>
    dsimp only [Progress.move]
    rw [changeHolder_behind, changeHolder_behind]
    simp [Progress.behind]
  | _ => rfl

theorem count_behind (c : CounterIncrements) :
    (p.behind d seen holders).count c = (p.count c).behind d seen holders := by
  have hc := CounterIncrements.add_assoc d.counters p.delta.counters c
  unfold Progress.count Progress.behind AggregateDelta.andThen
  simp only [Progress.mk.injEq, AggregateDelta.mk.injEq, and_self, and_true, true_and]
  exact ⟨rfl, hc⟩

theorem note_behind (limit : Nat) (row : Option RewardRow) :
    (p.behind d seen holders).note limit row = (p.note limit row).behind d seen holders := by
  cases row with
  | none => rfl
  | some row =>
    simp [Progress.note, Progress.report, Progress.behind, AggregateDelta.andThen,
      AggregateState.pushReward]

theorem take_behind (limit : Nat) (e : Event) :
    (p.behind d seen holders).take limit e = (p.take limit e).behind d seen holders := by
  unfold Progress.take
  rw [move_behind, count_behind, note_behind]

theorem closeBlock_behind (a : EventAggregator) (block : UInt64) :
    a.closeBlock (p.behind d seen holders) block
      = (a.closeBlock p block).behind d seen holders := by
  unfold closeBlock Progress.behind
  split_ifs <;> rfl

/-- The change that a fold starts from does not influence what it adds. -/
theorem foldEvents_behind (a : EventAggregator) (l : List Event) :
    a.foldEvents (p.behind d seen holders) l = (a.foldEvents p l).behind d seen holders := by
  induction l generalizing p with
  | nil => rfl
  | cons e l ih =>
    dsimp only [foldEvents]
    rw [take_behind, closeBlock_behind]
    split_ifs <;> exact ih _

end Behind

/-- What stays as it was before a window until its end. -/
structure Uncounted (s : AggregateState) (p : Progress) : Prop where
  holders : p.state.holdersNumber = s.holdersNumber
  notCounted : p.delta.holdersNumber = none
  unmoved : p.sawTransfer = false → p.state.holderBalances = s.holderBalances
  chain : p.state.chain = s.chain
  chain_delta : p.delta.chain = s.chain

namespace Uncounted

variable {s : AggregateState} {p : Progress}

theorem start (s : AggregateState) : Uncounted s (.start s) :=
  ⟨rfl, rfl, fun _ => rfl, rfl, rfl⟩

theorem move (h : Uncounted s p) (e : EventPayload) : Uncounted s (p.move e) := by
  cases e with
  | transfer sender receiver value =>
    obtain ⟨h1, h2, -, h4, h5⟩ := h
    unfold Progress.move Progress.changeHolder
    refine ⟨?_, ?_, fun hs => by simp at hs, ?_, ?_⟩ <;> dsimp only <;> split_ifs <;> assumption
  | _ => exact h

theorem note (h : Uncounted s p) (limit : Nat) (row : Option RewardRow) :
    Uncounted s (p.note limit row) := by
  cases row with
  | none => exact h
  | some row => exact ⟨h.holders, h.notCounted, h.unmoved, h.chain, h.chain_delta⟩

theorem take (h : Uncounted s p) (limit : Nat) (e : Event) : Uncounted s (p.take limit e) := by
  obtain ⟨h1, h2, h3, h4, h5⟩ := h.move e.payload
  have hcount : Uncounted s ((p.move e.payload).count e.payload.increments) :=
    ⟨h1, h2, h3, h4, h5⟩
  exact hcount.note limit e.row?

theorem closeBlock (h : Uncounted s p) (a : EventAggregator) (block : UInt64) :
    Uncounted s (a.closeBlock p block) := by
  obtain ⟨h1, h2, h3, h4, h5⟩ := h
  unfold EventAggregator.closeBlock
  split_ifs <;> exact ⟨h1, h2, h3, h4, h5⟩

theorem foldEvents (h : Uncounted s p) (a : EventAggregator) (l : List Event) :
    Uncounted s (a.foldEvents p l) := by
  induction l generalizing p with
  | nil => exact h
  | cons e l ih =>
    unfold EventAggregator.foldEvents
    split_ifs
    · exact ih (h.take _ e)
    · exact ih ((h.take _ e).closeBlock a e.block)

end Uncounted

theorem sawReport_closeBlock (a : EventAggregator) (p : Progress) (block : UInt64) :
    (a.closeBlock p block).sawReport = false := by
  unfold closeBlock
  split_ifs with h
  · rfl
  · simpa using h

theorem sawReport_foldEvents (a : EventAggregator) {p : Progress} {l : List Event}
    (h : l = [] → p.sawReport = false) : (a.foldEvents p l).sawReport = false := by
  induction l generalizing p with
  | nil => exact h rfl
  | cons e l ih =>
    unfold foldEvents
    apply ih
    rintro rfl
    simp [Event.blockGoesOn, sawReport_closeBlock]

@[simp] theorem applySnapshots_nil (p : Progress) : applySnapshots p [] = p := by
  simp [applySnapshots]

theorem lastBlockWithEvents_closeBlock (a : EventAggregator) (p : Progress) (block : UInt64) :
    (a.closeBlock p block).state.lastBlockWithEvents = some block := by
  unfold closeBlock
  split_ifs <;> rfl

theorem lastBlockWithEvents_foldEvents (a : EventAggregator) (p : Progress) {l : List Event}
    (h : l ≠ []) :
    (a.foldEvents p l).state.lastBlockWithEvents = some (l.getLast h).block := by
  induction l generalizing p with
  | nil => exact absurd rfl h
  | cons e l ih =>
    unfold foldEvents
    cases l with
    | nil => simp [foldEvents, Event.blockGoesOn, lastBlockWithEvents_closeBlock]
    | cons x l => rw [ih _ (List.cons_ne_nil x l), List.getLast_cons (List.cons_ne_nil x l)]

theorem lastBlockWithEvents_countHolders (p : Progress) :
    (countHolders p).state.lastBlockWithEvents = p.state.lastBlockWithEvents := by
  unfold countHolders
  split_ifs <;> rfl

theorem countHolders_of_seen {p : Progress} (h : p.sawTransfer = true) :
    countHolders p =
      { p with
        state := { p.state with holdersNumber := UInt64.ofNat p.state.holderBalances.size }
        delta := { p.delta with
          holdersNumber := some (UInt64.ofNat p.state.holderBalances.size) } } :=
  if_pos h

theorem countHolders_of_unseen {p : Progress} (h : p.sawTransfer = false) :
    countHolders p = p :=
  if_neg (by simp [h])

/-- A longer fold counts its holders as its last part does, or as the part before did if no
later event was a transfer. -/
theorem state_countHolders_behind {p q : Progress} (hq : Uncounted (countHolders p).state q) :
    (countHolders (q.behind p.delta p.sawTransfer p.state.holdersNumber)).state
      = (countHolders q).state := by
  obtain ⟨hholders, -, hunmoved, -, -⟩ := hq
  cases hqs : q.sawTransfer with
  | true =>
    rw [countHolders_of_seen hqs, countHolders_of_seen (by simp [Progress.behind, hqs])]
    rfl
  | false =>
    have hbalances := hunmoved hqs
    rw [countHolders_of_unseen hqs]
    cases hps : p.sawTransfer with
    | true =>
      rw [countHolders_of_seen hps] at hholders hbalances
      have hcount : q.state.holdersNumber = UInt64.ofNat q.state.holderBalances.size := by
        rw [hbalances]
        exact hholders
      rw [countHolders_of_seen (by simp [Progress.behind])]
      dsimp only [Progress.behind]
      rw [← hcount]
    | false =>
      rw [countHolders_of_unseen hps] at hholders
      rw [countHolders_of_unseen (by simp [Progress.behind, hqs])]
      dsimp only [Progress.behind]
      rw [← hholders]

theorem delta_countHolders_behind {p q : Progress} (hq : Uncounted (countHolders p).state q) :
    (countHolders (q.behind p.delta p.sawTransfer p.state.holdersNumber)).delta
      = (countHolders p).delta.andThen (countHolders q).delta := by
  obtain ⟨-, hnot, hunmoved, -, -⟩ := hq
  cases hqs : q.sawTransfer with
  | true =>
    rw [countHolders_of_seen hqs, countHolders_of_seen (by simp [Progress.behind, hqs])]
    cases hps : p.sawTransfer with
    | true => rw [countHolders_of_seen hps]; rfl
    | false => rw [countHolders_of_unseen hps]; rfl
  | false =>
    have hbalances := hunmoved hqs
    rw [countHolders_of_unseen hqs]
    cases hps : p.sawTransfer with
    | true =>
      rw [countHolders_of_seen hps] at hbalances ⊢
      rw [countHolders_of_seen (by simp [Progress.behind])]
      simp [Progress.behind, AggregateDelta.andThen, hnot, hbalances]
    | false =>
      rw [countHolders_of_unseen hps, countHolders_of_unseen (by simp [Progress.behind, hqs])]
      rfl

theorem window_nil (a : EventAggregator) (s : AggregateState) :
    a.window s [] [] = ⟨s, { chain := s.chain }⟩ := by
  simp [window, Event.ordered_nil, foldEvents, countHolders, Progress.start]

theorem chain_window (a : EventAggregator) (s : AggregateState) (events : List Event) :
    (a.window s events []).state.chain = s.chain := by
  have h := ((Uncounted.start s).foldEvents a (Event.ordered events)).chain
  unfold window
  rw [applySnapshots_nil, countHolders]
  split_ifs <;> exact h

theorem chain_delta_window (a : EventAggregator) (s : AggregateState) (events : List Event) :
    (a.window s events []).delta.chain = s.chain := by
  have h := ((Uncounted.start s).foldEvents a (Event.ordered events)).chain_delta
  unfold window
  rw [applySnapshots_nil, countHolders]
  split_ifs <;> exact h

theorem chain_of_apply {a : EventAggregator} {s : AggregateState} {events : List Event}
    {r : AppliedWindow} (h : a.apply s events [] = .ok r) :
    r.state.chain = s.chain ∧ r.delta.chain = s.chain := by
  obtain ⟨-, rfl⟩ := apply_eq_ok_iff.1 h
  exact ⟨chain_window a s events, chain_delta_window a s events⟩

theorem window_append (a : EventAggregator) (s : AggregateState) {l m : List Event}
    (h : Event.BlocksBefore l m) :
    a.window s (l ++ m) [] =
      ⟨(a.window (a.window s l []).state m []).state,
        (a.window s l []).delta.andThen (a.window (a.window s l []).state m []).delta⟩ := by
  have hblocks : Event.BlocksBefore (Event.ordered l) (Event.ordered m) := fun x hx y hy =>
    h x (Event.mem_of_mem_ordered hx) y (Event.mem_of_mem_ordered hy)
  unfold window
  rw [Event.ordered_append h, foldEvents_append a _ hblocks]
  simp only [applySnapshots_nil]
  generalize hp : a.foldEvents (.start s) (Event.ordered l) = p
  have huncounted : Uncounted s p := hp ▸ (Uncounted.start s).foldEvents a _
  have hreport : p.sawReport = false := hp ▸ sawReport_foldEvents a fun _ => rfl
  -- the end of the first part is the start of the second one, behind the first part
  have hstart : p = (Progress.start (countHolders p).state).behind p.delta p.sawTransfer
      p.state.holdersNumber := by
    obtain ⟨state, delta, sawTransfer, sawReport⟩ := p
    subst hreport
    cases sawTransfer <;> simp [Progress.behind, Progress.start, countHolders]
  have hq : Uncounted (countHolders p).state
      (a.foldEvents (.start (countHolders p).state) (Event.ordered m)) :=
    (Uncounted.start _).foldEvents a _
  conv_lhs => rw [hstart]
  rw [foldEvents_behind, state_countHolders_behind hq, delta_countHolders_behind hq]

theorem lastBlockWithEvents_window (a : EventAggregator) (s : AggregateState)
    {events : List Event} (h : events ≠ []) :
    ∃ e ∈ events, (a.window s events []).state.lastBlockWithEvents = some e.block := by
  have hordered : Event.ordered events ≠ [] := fun he => h (Event.ordered_eq_nil_iff.1 he)
  refine ⟨_, Event.mem_of_mem_ordered (List.getLast_mem hordered), ?_⟩
  unfold window
  rw [applySnapshots_nil]
  exact (lastBlockWithEvents_countHolders _).trans
    (lastBlockWithEvents_foldEvents a _ hordered)

theorem checkFresh_window (a : EventAggregator) (s : AggregateState) {l m : List Event}
    (h : Event.BlocksBefore l m) (hl : l ≠ []) :
    checkFresh (a.window s l []).state (Event.ordered m) = .ok () := by
  obtain ⟨e, he, hlast⟩ := lastBlockWithEvents_window a s hl
  unfold checkFresh
  rw [hlast]
  cases hm : (Event.ordered m).head? with
  | none => rfl
  | some x =>
    have hlt := h e he x (Event.mem_of_mem_ordered (List.mem_of_head? hm))
    simp [UInt64.not_le.2 hlt]

theorem checkFresh_append (s : AggregateState) {l m : List Event} (hl : l ≠ []) :
    checkFresh s (l ++ m) = checkFresh s l := by
  cases l with
  | nil => exact absurd rfl hl
  | cons e l => rfl

theorem checkWindow_append (a : EventAggregator) (s : AggregateState) {l m : List Event}
    (h : Event.BlocksBefore l m) :
    checkWindow s (l ++ m)
      = (checkWindow s l).bind fun _ => checkWindow (a.window s l []).state m := by
  by_cases hl : l = []
  · subst hl
    rw [window_nil, List.nil_append]
    simp [checkWindow, checkFresh, checkReports, Event.ordered_nil, Except.bind]
  · have hordered : Event.ordered l ≠ [] := fun he => hl (Event.ordered_eq_nil_iff.1 he)
    unfold checkWindow
    rw [Event.ordered_append h, checkFresh_append s hordered, checkReports_append,
      checkFresh_window a s h hl]
    cases checkFresh s (Event.ordered l) <;> rfl

/-- Applying a window of two parts is applying both in turn and composing their changes. -/
theorem apply_append (a : EventAggregator) (s : AggregateState) {l m : List Event}
    (h : Event.BlocksBefore l m) :
    a.apply s (l ++ m) [] = (a.apply s l []).bind fun r =>
      (a.apply r.state m []).map fun q => ⟨q.state, r.delta.andThen q.delta⟩ := by
  rw [apply_eq, checkWindow_append a s h, window_append a s h, apply_eq]
  cases checkWindow s l with
  | error x => rfl
  | ok _ =>
    change _ = (a.apply (a.window s l []).state m []).map _
    rw [apply_eq]
    change (checkWindow (a.window s l []).state m).map _ = _
    cases checkWindow (a.window s l []).state m <;> rfl

/-- Apply windows one after another, each onto the state that the one before it left. -/
def applyWindows (a : EventAggregator) : AggregateState → List (List Event) →
    Except AggregationError (AggregateState × List AggregateDelta)
  | s, [] => .ok (s, [])
  | s, w :: rest => do
    let r ← a.apply s w []
    let (t, deltas) ← a.applyWindows r.state rest
    return (t, r.delta :: deltas)

def composeAll (c : Chain) (deltas : List AggregateDelta) : AggregateDelta :=
  deltas.foldr AggregateDelta.andThen { chain := c }

theorem rewardRows_composeAll (c : Chain) (deltas : List AggregateDelta) :
    (composeAll c deltas).rewardRows = deltas.flatMap (·.rewardRows) := by
  induction deltas with
  | nil => rfl
  | cons d deltas ih => simp [composeAll, AggregateDelta.andThen, ← ih]

theorem applyDelta_composeAll (c : Chain) (deltas : List AggregateDelta) (t : AggregateState) :
    t.applyDelta (composeAll c deltas) = deltas.foldl AggregateState.applyDelta t := by
  induction deltas generalizing t with
  | nil => exact AggregateState.applyDelta_empty t c
  | cons d deltas ih =>
    change t.applyDelta (d.andThen (composeAll c deltas)) = _
    rw [AggregateState.applyDelta_andThen, ih, List.foldl_cons]

theorem blocksBefore_flatten {l : List Event} {windows : List (List Event)}
    (h : ∀ m ∈ windows, Event.BlocksBefore l m) : Event.BlocksBefore l windows.flatten := by
  intro x hx y hy
  obtain ⟨m, hm, hym⟩ := List.mem_flatten.1 hy
  exact h m hm x hx y hym

/-- One window over all events is the windows in turn, with their changes composed; it fails
for the reason for which the first of them fails. -/
theorem apply_flatten (a : EventAggregator) (s : AggregateState) {windows : List (List Event)}
    (h : windows.Pairwise Event.BlocksBefore) :
    a.apply s windows.flatten []
      = (a.applyWindows s windows).map fun r => ⟨r.1, composeAll s.chain r.2⟩ := by
  induction windows generalizing s with
  | nil =>
    rw [List.flatten_nil, apply_eq, window_nil]
    simp [checkWindow, checkFresh, checkReports, Event.ordered_nil, Except.bind, applyWindows,
      composeAll, Except.map]
  | cons w rest ih =>
    obtain ⟨hw, hrest⟩ := List.pairwise_cons.1 h
    rw [List.flatten_cons, apply_append a s (blocksBefore_flatten hw)]
    unfold applyWindows
    cases hr : a.apply s w [] with
    | error x => rfl
    | ok r =>
      change (a.apply r.state rest.flatten []).map _ = _
      rw [ih r.state hrest, (chain_of_apply hr).1]
      change _ = Except.map _ ((a.applyWindows r.state rest).bind _)
      cases a.applyWindows r.state rest <;> rfl

/-- How events are cut into windows does not matter. One window over all of them succeeds if
and only if the windows in turn do; it leads to the same state, its reports are theirs in
order, and its change does to every stored state what theirs do in turn. -/
theorem apply_flatten_iff_applyWindows (a : EventAggregator) (s : AggregateState)
    {windows : List (List Event)} (h : windows.Pairwise Event.BlocksBefore) :
    ((∃ one, a.apply s windows.flatten [] = .ok one) ↔
        ∃ many, a.applyWindows s windows = .ok many) ∧
      ∀ one t deltas, a.apply s windows.flatten [] = .ok one →
        a.applyWindows s windows = .ok (t, deltas) →
          one.state = t ∧ one.delta.rewardRows = deltas.flatMap (·.rewardRows) ∧
            ∀ stored : AggregateState, deltas.foldl AggregateState.applyDelta stored
              = stored.applyDelta one.delta := by
  rw [apply_flatten a s h]
  cases a.applyWindows s windows with
  | error x => simp [Except.map]
  | ok many =>
    refine ⟨by simp [Except.map], ?_⟩
    rintro one t deltas hone hmany
    cases hmany
    cases hone
    exact ⟨rfl, rewardRows_composeAll _ _, fun stored => (applyDelta_composeAll _ _ _).symm⟩

/-- A window without events, and one whose reports span two blocks, between two transfers. -/
def fourWindows : List (List Event) :=
  [[⟨5, 0, .transfer .zero (.ofNat 1) (.ofUInt64 9)⟩], [],
    [⟨7, 0, .rewards (.ofNat 7) (.ofUInt64 5) (.ofUInt64 94)⟩,
      ⟨8, 0, .losses (.ofNat 7) (.ofUInt64 4) (.ofUInt64 90)⟩],
    [⟨9, 0, .transfer (.ofNat 1) .zero (.ofUInt64 9)⟩]]

theorem apply_flatten_fourWindows :
    ∃ one deltas, (EventAggregator.ofConstants .standard 1).apply brimming fourWindows.flatten []
        = .ok one ∧
      (EventAggregator.ofConstants .standard 1).applyWindows brimming fourWindows
        = .ok (one.state, deltas) ∧
      one.delta.rewardRows = deltas.flatMap (·.rewardRows) ∧
      deltas.foldl AggregateState.applyDelta brimming = brimming.applyDelta one.delta := by
  have hcheck : checkWindow brimming fourWindows.flatten = .ok () := by
    rw [checkWindow, Event.ordered_eq_self (by decide)]
    decide +kernel
  have hone := apply_of_checkWindow (.ofConstants .standard 1) [] hcheck
  obtain ⟨hiff, hsame⟩ := apply_flatten_iff_applyWindows (.ofConstants .standard 1) brimming
    (show fourWindows.Pairwise Event.BlocksBefore by decide)
  obtain ⟨⟨t, deltas⟩, hmany⟩ := hiff.1 ⟨_, hone⟩
  obtain ⟨rfl, hrows, hstored⟩ := hsame _ _ _ hone hmany
  exact ⟨_, deltas, hone, hmany, hrows, hstored brimming⟩

end EventAggregator
end StakingIndexer
