import Mathlib
import StakingIndexer.Proofs.Interleaving
import StakingIndexer.Proofs.Scan.EventsWorld
import StakingIndexer.Proofs.Scan.LoopDelta

/-!
# Loops over one store

Four loops commit to a store in memory, each in its own order. Commits of different loops
commute, so that the store depends on the four sequences alone and not on how they are
interleaved. What a loop owns is what its own commits lead to.
-/

namespace StakingIndexer

namespace PerChain

variable {α : Type}

theorem ext_get {p q : PerChain α} (h : ∀ c, p.get c = q.get c) : p = q := by
  cases p
  cases q
  have hparachain := h .parachain
  have hrelay := h .relayChain
  dsimp only [get] at hparachain hrelay
  rw [hparachain, hrelay]

end PerChain

theorem PerTarget.ext_get {α : Type} {p q : PerTarget α} (h : ∀ t, p.get t = q.get t) :
    p = q := by
  cases p
  cases q
  have hevents := h .events
  have hparachain := h .parachainState
  have hrelay := h .relayState
  have hvalidators := h .validatorsInfo
  dsimp only [get] at hevents hparachain hrelay hvalidators
  rw [hevents, hparachain, hrelay, hvalidators]

/-- The state with the fields of another one that snapshots of the contracts replace. -/
def AggregateState.withSnapshot (s t : AggregateState) : AggregateState :=
  { s with
    totalSupply := t.totalSupply
    totalSupplyUsd := t.totalSupplyUsd
    contractBufferedDeposits := t.contractBufferedDeposits
    contractBufferedRedeems := t.contractBufferedRedeems
    eraId := t.eraId
    currentEraId := t.currentEraId
    nextEraStartTime := t.nextEraStartTime
    ledgers := t.ledgers }

namespace LoopDelta

variable {d : AggregateDelta}

theorem withSnapshot_applyDelta (h : LoopDelta .events d) (s t : AggregateState) :
    t.withSnapshot (s.applyDelta d) = t.withSnapshot s := by
  obtain ⟨⟨last, apr, hscalars⟩, hledgers, -, -⟩ := h.eventsOnly
  simp [AggregateState.withSnapshot, AggregateState.applyDelta_eq, AggregateState.overwrite,
    AggregateState.increment, ScalarOverwrites.ofEvents, hscalars, hledgers]

theorem applyDelta_withSnapshot (h : LoopDelta .parachainState d) (s t : AggregateState) :
    (s.applyDelta d).withSnapshot t = s.withSnapshot t := by
  obtain ⟨snapshot, price, rfl⟩ := h.eq_of_parachainState
  simp [AggregateState.withSnapshot, AggregateState.applyDelta_eq, AggregateState.overwrite,
    AggregateState.increment, ParachainStateTarget.delta, ParachainStateTarget.scalars]

end LoopDelta

namespace MemoryStore

variable {s : MemoryStore} {c c' : ScanCursor} {d d' : AggregateDelta}

theorem isNew_apply_of_ne (h : c.target ≠ c'.target) : (s.apply c d).isNew c' = s.isNew c' := by
  unfold isNew
  rw [cursor_apply, if_neg fun hkey => h hkey.2.symm]

theorem ext_parts {t : MemoryStore}
    (hcursors : ∀ chain target, s.cursor chain target = t.cursor chain target)
    (haggregates : ∀ chain, s.aggregates.get chain = t.aggregates.get chain)
    (hrewards : s.rewards = t.rewards) (hvalidators : s.validatorsInfo = t.validatorsInfo)
    (happlied : s.appliedCommits = t.appliedCommits)
    (hfailing : s.failingCommits = t.failingCommits) : s = t := by
  have hcs : s.cursors = t.cursors :=
    PerChain.ext_get fun chain => PerTarget.ext_get fun target => hcursors chain target
  have has : s.aggregates = t.aggregates := PerChain.ext_get haggregates
  cases s
  cases t
  simp_all

/-- Commits of different targets write different cursors, fields and lists. -/
theorem apply_comm (htarget : c.target ≠ c'.target)
    (hstate : d.chain = d'.chain → ∀ s : AggregateState,
      (s.applyDelta d).applyDelta d' = (s.applyDelta d').applyDelta d)
    (hrewards : d.rewardRows = [] ∨ d'.rewardRows = [])
    (hvalidators : d.validatorsInfo = none ∨ d'.validatorsInfo = none) :
    (s.apply c d).apply c' d' = (s.apply c' d').apply c d := by
  refine ext_parts (fun chain target => ?_) (fun chain => ?_) ?_ ?_ rfl rfl
  · simp only [cursor_apply]
    split_ifs with h h' <;> first | rfl | exact absurd (h'.2.symm.trans h.2) htarget
  · simp only [aggregates_apply, aggregate]
    split_ifs with h h' h'
    · subst h
      simp [hstate h'.symm]
    · rfl
    · rfl
    · rfl
  · change s.rewards ++ d.rewardRows ++ d'.rewardRows = s.rewards ++ d'.rewardRows ++ d.rewardRows
    rcases hrewards with h | h <;> simp [h]
  · change d'.validatorsInfo.getD (d.validatorsInfo.getD s.validatorsInfo)
      = d.validatorsInfo.getD (d'.validatorsInfo.getD s.validatorsInfo)
    rcases hvalidators with h | h <;> simp [h]

end MemoryStore

/-- A commit of a loop. -/
structure LoopCommit where
  cursor : ScanCursor
  delta : AggregateDelta
  made : LoopDelta cursor.target delta

namespace LoopCommit

/-- The commits of one loop among those of all. -/
def of (t : TargetId) (l : List LoopCommit) : List LoopCommit := l.filter (·.cursor.target = t)

def moves (l : List LoopCommit) : List (StoreMove Nat) := l.map fun x => .commit x.cursor x.delta

def run (s : MemoryStore) (l : List LoopCommit) : MemoryStore :=
  MemoryStore.faulty.run s (moves l)

def outcomes (s : MemoryStore) (l : List LoopCommit) : List Submission :=
  MemoryStore.faulty.submissions s (moves l)

def step (s : MemoryStore) (x : LoopCommit) : MemoryStore :=
  (MemoryStore.commit x.cursor x.delta s).2

theorem run_eq_foldl (s : MemoryStore) (l : List LoopCommit) : run s l = l.foldl step s :=
  List.foldl_map

variable {s : MemoryStore}

theorem step_eq (hs : s.failingCommits = 0) (x : LoopCommit) :
    step s x = if s.isNew x.cursor then s.apply x.cursor x.delta else s := by
  rw [step, MemoryStore.commit_of_ready hs]
  split_ifs <;> rfl

theorem ready_step (s : MemoryStore) (x : LoopCommit) (hs : s.failingCommits = 0) :
    (step s x).failingCommits = 0 := by
  rw [step_eq hs]
  split_ifs <;> exact hs

theorem step_comm (hs : s.failingCommits = 0) {x y : LoopCommit}
    (h : x.cursor.target ≠ y.cursor.target) : step (step s x) y = step (step s y) x := by
  have happly : (s.apply x.cursor x.delta).apply y.cursor y.delta
      = (s.apply y.cursor y.delta).apply x.cursor x.delta := by
    refine MemoryStore.apply_comm h (fun hchain s => x.made.applyDelta_comm y.made h hchain s)
      ?_ ?_
    · by_cases hx : x.cursor.target = .events
      · exact .inr (y.made.rewardRows_of_ne fun hy => h (hx.trans hy.symm))
      · exact .inl (x.made.rewardRows_of_ne hx)
    · by_cases hx : x.cursor.target = .validatorsInfo
      · exact .inr (y.made.validatorsInfo_of_ne fun hy => h (hx.trans hy.symm))
      · exact .inl (x.made.validatorsInfo_of_ne hx)
  rw [step_eq (ready_step s x hs), step_eq (ready_step s y hs), step_eq hs, step_eq hs]
  -- a commit that passes leaves the gate of the other one as it is
  by_cases hx : s.isNew x.cursor <;> by_cases hy : s.isNew y.cursor
  all_goals simp [hx, hy, MemoryStore.isNew_apply_of_ne h, MemoryStore.isNew_apply_of_ne h.symm,
    happly]

/-- A store behind the commits of all loops depends on the sequence of each. -/
theorem run_eq_of_same (hs : s.failingCommits = 0) {l m : List LoopCommit}
    (h : ∀ t, of t l = of t m) : run s l = run s m := by
  rw [run_eq_foldl, run_eq_foldl]
  exact Interleaving.foldl_eq_of_filter_key (I := fun s => s.failingCommits = 0) ready_step
    (fun s x y hs hne => step_comm hs hne) h hs

/-- What no other loop changes is what the own commits of a loop lead to. -/
theorem part_run (hs : s.failingCommits = 0) {β : Type} (part : MemoryStore → β) (t : TargetId)
    (hpart : ∀ s x, s.failingCommits = 0 → x.cursor.target ≠ t → part (step s x) = part s)
    (l : List LoopCommit) : part (run s l) = part (run s (of t l)) := by
  have hsplit : run s l = run s (of t l ++ l.filter (·.cursor.target ≠ t)) :=
    run_eq_of_same hs (Interleaving.filter_key_append l t)
  have hready : (run s (of t l)).failingCommits = 0 := by
    rw [run_eq_foldl]
    exact List.foldlRecOn (motive := fun r => r.failingCommits = 0) _ _ hs
      fun r hr x _ => ready_step r x hr
  rw [hsplit, run_eq_foldl, List.foldl_append, ← run_eq_foldl s (of t l)]
  have hkept := List.foldlRecOn (motive := fun r => r.failingCommits = 0 ∧
      part r = part (run s (of t l))) (l.filter (·.cursor.target ≠ t)) step ⟨hready, rfl⟩
    fun r hr x hx => ⟨ready_step r x hr.1,
      (hpart r x hr.1 (by simpa using (List.mem_filter.1 hx).2)).trans hr.2⟩
  exact hkept.2

theorem aggregate_step (hs : s.failingCommits = 0) (x : LoopCommit) (chain : Chain) :
    (step s x).aggregate chain
      = if s.isNew x.cursor ∧ chain = x.cursor.target.chain
        then (s.aggregate chain).applyDelta x.delta else s.aggregate chain := by
  rw [step_eq hs]
  by_cases hnew : s.isNew x.cursor
  · simp [hnew, MemoryStore.aggregate_apply_eq, x.made.chain]
  · simp [hnew]

theorem cursor_step (hs : s.failingCommits = 0) (x : LoopCommit) (chain : Chain)
    (target : TargetId) :
    (step s x).cursor chain target
      = if s.isNew x.cursor ∧ chain = x.cursor.chain ∧ target = x.cursor.target
        then some x.cursor else s.cursor chain target := by
  rw [step_eq hs]
  by_cases hnew : s.isNew x.cursor
  · simp [hnew, MemoryStore.cursor_apply]
  · simp [hnew]

theorem withSnapshot_step (hs : s.failingCommits = 0) {x : LoopCommit}
    (h : x.cursor.target ≠ .events) (t : AggregateState) :
    ((step s x).aggregate .parachain).withSnapshot t
      = (s.aggregate .parachain).withSnapshot t := by
  rw [aggregate_step hs]
  split_ifs with hchanged
  · have htarget : x.cursor.target = .parachainState :=
      TargetId.eq_of_chain_eq (u := .parachainState) (v := .events) (by decide) rfl
        hchanged.2.symm h
    exact (htarget ▸ x.made).applyDelta_withSnapshot _ _
  · rfl

theorem snapshot_step (hs : s.failingCommits = 0) {x : LoopCommit}
    (h : x.cursor.target ≠ .parachainState) (t : AggregateState) :
    t.withSnapshot ((step s x).aggregate .parachain)
      = t.withSnapshot (s.aggregate .parachain) := by
  rw [aggregate_step hs]
  split_ifs with hchanged
  · have htarget : x.cursor.target = .events :=
      TargetId.eq_of_chain_eq (u := .events) (v := .parachainState) (by decide) rfl
        hchanged.2.symm h
    exact (htarget ▸ x.made).withSnapshot_applyDelta _ _
  · rfl

theorem relay_step (hs : s.failingCommits = 0) {x : LoopCommit}
    (h : x.cursor.target ≠ .relayState) :
    (step s x).aggregate .relayChain = s.aggregate .relayChain := by
  rw [aggregate_step hs]
  split_ifs with hchanged
  · have htarget : x.cursor.target = .validatorsInfo :=
      TargetId.eq_of_chain_eq (u := .validatorsInfo) (v := .relayState) (by decide) rfl
        hchanged.2.symm h
    exact (htarget ▸ x.made).applyDelta_validatorsInfo _
  · rfl

theorem rewards_step (hs : s.failingCommits = 0) {x : LoopCommit}
    (h : x.cursor.target ≠ .events) : (step s x).rewards = s.rewards := by
  rw [step_eq hs]
  split_ifs
  · change s.rewards ++ x.delta.rewardRows = s.rewards
    rw [x.made.rewardRows_of_ne h, List.append_nil]
  · rfl

theorem validatorsInfo_step (hs : s.failingCommits = 0) {x : LoopCommit}
    (h : x.cursor.target ≠ .validatorsInfo) :
    (step s x).validatorsInfo = s.validatorsInfo := by
  rw [step_eq hs]
  split_ifs
  · change x.delta.validatorsInfo.getD s.validatorsInfo = s.validatorsInfo
    rw [x.made.validatorsInfo_of_ne h]
    rfl
  · rfl

theorem outcomes_filter {s s' : MemoryStore} (hs : s.failingCommits = 0)
    (hs' : s'.failingCommits = 0) {t : TargetId}
    (hcursors : ∀ chain, s.cursor chain t = s'.cursor chain t) (l : List LoopCommit) :
    (outcomes s l).filter (·.cursor.target = t) = outcomes s' (of t l) := by
  induction l generalizing s s' with
  | nil => rfl
  | cons x l ih =>
    have hcons : outcomes s (x :: l) = ⟨x.cursor, x.delta,
        (MemoryStore.commit x.cursor x.delta s).1⟩ :: outcomes (step s x) l := rfl
    rw [hcons]
    by_cases ht : x.cursor.target = t
    · have hnew : s.isNew x.cursor = s'.isNew x.cursor := by
        unfold MemoryStore.isNew
        rw [ht, hcursors]
      have hout : (MemoryStore.commit x.cursor x.delta s).1
          = (MemoryStore.commit x.cursor x.delta s').1 := by
        rw [MemoryStore.commit_of_ready hs, MemoryStore.commit_of_ready hs', hnew]
        split_ifs <;> rfl
      have hrest := ih (ready_step s x hs) (ready_step s' x hs') fun chain => by
        rw [cursor_step hs, cursor_step hs', hnew, hcursors]
      have hof : of t (x :: l) = x :: of t l := List.filter_cons_of_pos (by simp [ht])
      rw [List.filter_cons_of_pos (by simp [ht]), hrest, hof, hout]
      rfl
    · have hrest := ih (ready_step s x hs) hs' fun chain => by
        rw [cursor_step hs, if_neg fun h => ht h.2.2.symm, hcursors]
      have hof : of t (x :: l) = of t l := List.filter_cons_of_neg (by simp [ht])
      rw [List.filter_cons_of_neg (by simp [ht]), hrest, hof]

/-- Two interleavings of the commits of four loops lead to one store, and each commit to one
outcome. What the store holds then is taken from the loops alone: the state of the parachain
from events and from snapshots of the contracts, the state of the relay chain from snapshots of
the pallet, the reports from events and the validators from their loop. -/
theorem run_eq_of_interleaving (hs : s.failingCommits = 0) {l m : List LoopCommit}
    (h : ∀ t, of t l = of t m) :
    run s l = run s m ∧
      (∀ t, (outcomes s l).filter (·.cursor.target = t) = outcomes s (of t l) ∧
        (outcomes s m).filter (·.cursor.target = t) = outcomes s (of t l)) ∧
      (run s l).aggregate .parachain
        = ((run s (of .events l)).aggregate .parachain).withSnapshot
            ((run s (of .parachainState l)).aggregate .parachain) ∧
      (run s l).aggregate .relayChain = (run s (of .relayState l)).aggregate .relayChain ∧
      (run s l).rewards = (run s (of .events l)).rewards ∧
      (run s l).validatorsInfo = (run s (of .validatorsInfo l)).validatorsInfo := by
  refine ⟨run_eq_of_same hs h, fun t => ⟨outcomes_filter hs hs (fun _ => rfl) l, ?_⟩, ?_,
    part_run hs (·.aggregate .relayChain) _ (fun s x hs => relay_step hs) l,
    part_run hs (·.rewards) _ (fun s x hs => rewards_step hs) l,
    part_run hs (·.validatorsInfo) _ (fun s x hs => validatorsInfo_step hs) l⟩
  · rw [h t]
    exact outcomes_filter hs hs (fun _ => rfl) m
  · have hevents := part_run hs (fun r => (r.aggregate .parachain).withSnapshot
      ((run s l).aggregate .parachain)) .events (fun r x hr hne => withSnapshot_step hr hne _) l
    have hsnapshot := part_run hs (fun r => ((run s (of .events l)).aggregate
      .parachain).withSnapshot (r.aggregate .parachain)) .parachainState
      (fun r x hr hne => snapshot_step hr hne _) l
    calc (run s l).aggregate .parachain
        = ((run s l).aggregate .parachain).withSnapshot ((run s l).aggregate .parachain) := rfl
      _ = ((run s (of .events l)).aggregate .parachain).withSnapshot
            ((run s l).aggregate .parachain) := hevents
      _ = _ := hsnapshot

/-- A deposit, a snapshot of the contracts and a set of validators. -/
def deposit : LoopCommit where
  cursor := ⟨.parachain, .events, 1, 0⟩
  delta := ((EventAggregator.ofConstants .standard 1).window (.empty .parachain)
    [⟨1, 0, .deposited (.ofNat 2) (.ofUInt64 5)⟩] []).delta
  made := by
    have hcheck : EventAggregator.checkWindow (.empty .parachain)
        [⟨1, 0, .deposited (.ofNat 2) (.ofUInt64 5)⟩] = .ok () := by
      rw [EventAggregator.checkWindow, Event.ordered_eq_self (List.pairwise_singleton _ _)]
      rfl
    exact .events rfl (EventAggregator.apply_of_checkWindow _ [] hcheck)

def snapshot : LoopCommit where
  cursor := ⟨.parachain, .parachainState, 5, 0⟩
  delta := ParachainStateTarget.delta .parachain default none
  made := .delta_parachainState default none

def validators : LoopCommit where
  cursor := ⟨.relayChain, .validatorsInfo, 7, 0⟩
  delta := (ValidatorsInfoTarget.output (.empty .relayChain) [default]).delta
  made := .validatorsInfo rfl

theorem run_eq_of_interleaving_reversed :
    MemoryStore.empty.failingCommits = 0 ∧
      (∀ t, of t [deposit, snapshot, validators] = of t [validators, snapshot, deposit]) ∧
      run .empty [deposit, snapshot, validators] = run .empty [validators, snapshot, deposit] := by
  have hsame : ∀ t, of t [deposit, snapshot, validators] = of t [validators, snapshot, deposit] :=
    fun t => by cases t <;> rfl
  exact ⟨rfl, hsame, (run_eq_of_interleaving rfl hsame).1⟩

end LoopCommit
end StakingIndexer
