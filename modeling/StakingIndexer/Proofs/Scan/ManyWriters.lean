import Mathlib
import StakingIndexer.Proofs.Scan.Journal
import StakingIndexer.Proofs.Scan.LocalWorld

/-!
# A store with many writers

Any number of scanners over one chain share a store and step in any order. A commit is let
through when its window ends beyond the stored cursor, wherever the window starts: a scanner
that has fallen behind may store blocks again that another one had stored. No event is ever
left out, and each event is counted once if and only if no commit that was let through holds a
counted event at or before the cursor that it found.
-/

namespace StakingIndexer

namespace MemoryStore

/-- What the stored events of a chain are counted by. -/
def tally (s : MemoryStore) (chain : Chain) : Tally where
  deposited := (s.aggregate chain).deposited
  redeemed := (s.aggregate chain).redeemed
  depositedCount := (s.aggregate chain).depositedCount
  redeemedCount := (s.aggregate chain).redeemedCount
  rewardsAggregated := (s.aggregate chain).rewardsAggregated
  lossesAggregated := (s.aggregate chain).lossesAggregated
  rows := s.rewards

theorem tally_empty (chain : Chain) : empty.tally chain = .ofEvents [] := by
  unfold tally
  rw [aggregate_empty]
  rfl

theorem tally_apply (s : MemoryStore) {chain : Chain} (c : ScanCursor) {delta : AggregateDelta}
    (h : delta.chain = chain) :
    (s.apply c delta).tally chain
      = (s.tally chain).add (.ofCounters delta.counters delta.rewardRows) := by
  unfold tally
  rw [aggregate_apply s c h]
  rfl

end MemoryStore

namespace EventsWorld

variable {ω : Type} {events : List Event} {x : EventsWorld ω events}

/-- A commit that is let through moves the position forward. -/
theorem position_lt_of_isNew {s : MemoryStore} {cursor last : UInt64} {now : Int}
    (hbegun : EventsTarget.initialCursor x.initialBlock ≤ cursor) (hlast : cursor < last)
    (hnew : s.isNew ⟨x.chain, .events, last, now⟩) : x.position s < last := by
  rw [MemoryStore.isNew_iff] at hnew
  unfold position MemoryStore.position
  cases hstored : s.cursor x.chain .events with
  | none => exact UInt64.lt_of_le_of_lt hbegun hlast
  | some stored => exact hnew stored hstored

variable (x) in
/-- A scanner that is not ahead of the store. -/
structure Behind (s : MemoryStore) (b : BlockScanner) : Prop where
  begun : EventsTarget.initialCursor x.initialBlock ≤ b.cursor
  behind : b.cursor ≤ x.position s
  chain : b.state.chain = x.chain

theorem behind_restored {s : MemoryStore} {b : BlockScanner} {rows : List RewardRow}
    (hbegun : EventsTarget.initialCursor x.initialBlock ≤ x.position s)
    (hchain : (s.aggregate x.chain).chain = x.chain) (hcursor : b.cursor = x.position s)
    (hstate : b.state = (s.aggregate x.chain).withHistory rows) : x.Behind s b := by
  refine ⟨?_, ?_, ?_⟩
  · rw [hcursor]
    exact hbegun
  · rw [hcursor]
    exact UInt64.le_refl _
  · rw [hstate]
    exact hchain

end EventsWorld

/-- Scanners in a world that they share, with the commits that they have made. -/
structure Fleet (ω : Type) where
  scanners : List BlockScanner
  world : ω
  journal : List AppliedCommit

namespace Fleet

variable {ω : Type} {events : List Event} (x : EventsWorld ω events)

/-- What the outcome of a step adds to the journal. -/
def entries (found : UInt64) : Except ScanError StepOutcome → List AppliedCommit
  | .ok (.committed window) => [⟨found, window⟩]
  | _ => []

theorem entries_of_ne {found : UInt64} {outcome : Except ScanError StepOutcome}
    (h : ∀ window, outcome ≠ .ok (.committed window)) : entries found outcome = [] := by
  unfold entries
  split
  · exact absurd rfl (h _)
  · rfl

def step (config : ScannerConfig) (f : Fleet ω) (i : Nat) (b : BlockScanner) : Fleet ω :=
  let r := BlockScanner.step (x.loop config) b f.world
  ⟨f.scanners.set i r.2.1, r.2.2, f.journal ++ entries (x.position (x.stored f.world)) r.1⟩

/-- What can happen to scanners and the world that they share. A scanner may be started at
any time, and one that is dropped makes no more steps. An error may shrink a range, and the
world moves on by itself: the height, the faults of nodes and store, the time. -/
inductive Move : Fleet ω → Fleet ω → Prop
  | spawn (config : ScannerConfig) (f : Fleet ω) {b : BlockScanner} {w : ω}
      (hnew : BlockScanner.new (x.loop config) f.world = (.ok b, w)) :
      Move f { f with scanners := f.scanners ++ [b], world := w }
  | step (config : ScannerConfig) (f : Fleet ω) {i : Nat} {b : BlockScanner}
      (hb : f.scanners[i]? = some b) : Move f (f.step x config i b)
  | recover (config : ScannerConfig) (e : ScanError) (f : Fleet ω) {i : Nat} {b : BlockScanner}
      (hb : f.scanners[i]? = some b) :
      Move f { f with
        scanners := f.scanners.set i (BlockScanner.onError (x.loop config) e b f.world).2.1
        world := (BlockScanner.onError (x.loop config) e b f.world).2.2 }
  | drift (f : Fleet ω) {w : ω} (faults : Nat) (hserves : x.serves w)
      (hstored : x.stored w = (x.stored f.world).failNextCommits faults) :
      Move f { f with world := w }

/-- What scanners and their world can come to, from a store that is empty. -/
inductive Reachable : Fleet ω → Prop
  | start {w : ω} (hserves : x.serves w) (hempty : x.stored w = .empty) : Reachable ⟨[], w, []⟩
  | move {f g : Fleet ω} (hf : Reachable f) (hmove : Move x f g) : Reachable g

/-- What holds between the moves of any number of writers. -/
structure Sound (s : MemoryStore) (f : Fleet ω) : Prop where
  holds : x.Holds s f.world
  chain : (s.aggregate x.chain).chain = x.chain
  journal : Journal x.initialBlock f.journal (x.position s)
  tally : s.tally x.chain = .ofEvents (Journal.taken events f.journal)
  scanners : ∀ b ∈ f.scanners, x.Behind s b

variable {x} {s : MemoryStore} {f : Fleet ω}

theorem sound_step (hkeys : (events.map Event.key).Nodup) (h : Sound x s f)
    (config : ScannerConfig) {i : Nat} {b : BlockScanner} (hb : f.scanners[i]? = some b) :
    ∃ s', Sound x s' (f.step x config i b) := by
  have hbehind := h.scanners b (List.mem_of_getElem? hb)
  obtain ⟨s', hw', hstep⟩ := EventsWorld.step_effect config h.holds b
  refine ⟨s', ?_⟩
  unfold step
  rw [h.holds.2]
  dsimp only
  generalize BlockScanner.step (x.loop config) b f.world = r at hw' hstep ⊢
  obtain ⟨outcome, b', w'⟩ := r
  dsimp only at hw' hstep ⊢
  have hothers : ∀ t : MemoryStore, x.position s ≤ x.position t → x.Behind t b' →
      ∀ d ∈ f.scanners.set i b', x.Behind t d := by
    intro t hle ht d hd
    rcases List.mem_or_eq_of_mem_set hd with hd | rfl
    · obtain ⟨hbegun, hle', hchain⟩ := h.scanners d hd
      exact ⟨hbegun, UInt64.le_trans hle' hle, hchain⟩
    · exact ht
  cases hstep with
  | kept faults houtcome hcursor hstate =>
    rw [entries_of_ne houtcome, List.append_nil]
    refine ⟨hw', h.chain, h.journal, h.tally, hothers _ (UInt64.le_refl _) ?_⟩
    exact ⟨hcursor ▸ hbehind.begun, hcursor ▸ hbehind.behind, hstate ▸ hbehind.chain⟩
  | @reloaded window _ stored rows hstored hcursor hstate =>
    have hentries : entries (x.position s) (.ok (.alreadyApplied window)) = [] := rfl
    rw [hentries, List.append_nil]
    refine ⟨hw', h.chain, h.journal, h.tally, hothers _ (UInt64.le_refl _) ?_⟩
    have hposition : b'.cursor = x.position s := by
      rw [hcursor, EventsWorld.position, MemoryStore.position, hstored]
    exact EventsWorld.behind_restored (UInt64.le_trans hbehind.begun hbehind.behind) h.chain
      hposition hstate
  | @committed _ last answer applied now hlast hanswer happly hnew hcursor hstate =>
    have hlater := EventsWorld.position_lt_of_isNew hbehind.begun hlast hnew
    have hposition := x.position_apply s last now applied.delta
    obtain ⟨hstateChain, hdeltaChain⟩ := EventAggregator.chain_of_apply happly
    have hchain : applied.delta.chain = x.chain := hdeltaChain.trans hbehind.chain
    obtain ⟨-, rfl⟩ := EventAggregator.apply_eq_ok_iff.1 happly
    have hentries : entries (x.position s) (.ok (.committed ⟨b.cursor + 1, last⟩))
        = [⟨x.position s, ⟨b.cursor + 1, last⟩⟩] := rfl
    rw [hentries]
    refine ⟨hw', ?_, ?_, ?_, hothers _ ?_ ⟨?_, ?_, ?_⟩⟩
    · rw [MemoryStore.aggregate_apply s _ hchain]
      exact h.chain
    · rw [hposition]
      exact .snoc h.journal hbehind.begun hbehind.behind hlater
    · rw [MemoryStore.tally_apply s _ hchain, h.tally,
        EventAggregator.tally_window x.aggregator b.state hkeys hanswer, ← Tally.ofEvents_append,
        Journal.taken_snoc]
    · rw [hposition]
      exact UInt64.le_of_lt hlater
    · rw [hcursor]
      exact UInt64.le_trans hbehind.begun (UInt64.le_of_lt hlast)
    · rw [hcursor, hposition]
      exact UInt64.le_refl _
    · rw [hstate, hstateChain]
      exact hbehind.chain

theorem sound_move (hkeys : (events.map Event.key).Nodup) {g : Fleet ω} (h : Sound x s f)
    (hmove : Move x f g) : ∃ s', Sound x s' g := by
  cases hmove with
  | spawn config f hnew =>
    obtain ⟨w', hw', heq⟩ := EventsWorld.new_eq config h.holds
    rw [heq] at hnew
    cases hnew
    refine ⟨s, hw', h.chain, h.journal, h.tally, fun d hd => ?_⟩
    rcases List.mem_append.1 hd with hd | hd
    · exact h.scanners d hd
    · rw [List.mem_singleton.1 hd]
      exact EventsWorld.behind_restored h.journal.begun h.chain rfl rfl
  | step config f hb => exact sound_step hkeys h config hb
  | recover config e f hb =>
    have hbehind := h.scanners _ (List.mem_of_getElem? hb)
    obtain ⟨hw', hcursor, hstate⟩ := EventsWorld.onError_effect config h.holds e _
    refine ⟨s, hw', h.chain, h.journal, h.tally, fun d hd => ?_⟩
    rcases List.mem_or_eq_of_mem_set hd with hd | rfl
    · exact h.scanners d hd
    · exact ⟨hcursor ▸ hbehind.begun, hcursor ▸ hbehind.behind, hstate ▸ hbehind.chain⟩
  | drift f faults hserves hstored =>
    refine ⟨s.failNextCommits faults, ⟨hserves, ?_⟩, h.chain, h.journal, h.tally, ?_⟩
    · rw [hstored, h.holds.2]
    · exact fun d hd => ⟨(h.scanners d hd).begun, (h.scanners d hd).behind,
        (h.scanners d hd).chain⟩

theorem sound_of_reachable (hkeys : (events.map Event.key).Nodup) (h : Reachable x f) :
    ∃ s, Sound x s f := by
  induction h with
  | start hserves hempty =>
    refine ⟨.empty, ⟨hserves, hempty⟩, ?_, ?_, MemoryStore.tally_empty _, fun _ hb => by cases hb⟩
    · rw [MemoryStore.aggregate_empty]
      rfl
    · rw [EventsWorld.position_empty]
      exact .nil
  | move _ hmove ih =>
    obtain ⟨s, hs⟩ := ih
    exact sound_move hkeys hs hmove

theorem Reachable.committed (h : Reachable x f) (hw : x.Holds s f.world)
    (config : ScannerConfig) {i : Nat} {b : BlockScanner} {window : BlockWindow}
    (hb : f.scanners[i]? = some b)
    (hstep : (BlockScanner.step (x.loop config) b f.world).1 = .ok (.committed window)) :
    ∃ b' w' s', x.Holds s' w' ∧ x.position s' = window.last ∧
      s'.failingCommits = s.failingCommits ∧
      Reachable x ⟨f.scanners.set i b', w', f.journal ++ [⟨x.position s, window⟩]⟩ := by
  obtain ⟨s', hw', hposition, hfaults⟩ := EventsWorld.position_of_committed config hw hstep
  have hmoved := h.move (.step config f hb)
  unfold step at hmoved
  dsimp only at hmoved
  rw [hstep, hw.2] at hmoved
  exact ⟨_, _, s', hw', hposition, hfaults, hmoved⟩

open LocalIndexer in
/-- Two scanners are started. One stores the first block; the other one then finds two blocks
and stores both, the first of them again. -/
theorem exists_overlapping_commits :
    ∃ f : Fleet LocalIndexer, Reachable depositWorld f ∧
      depositWorld.position (depositWorld.stored f.world) = 2 ∧
      f.journal = [⟨0, ⟨1, 1⟩⟩, ⟨1, ⟨1, 2⟩⟩] := by
  have hempty : depositWorld.Holds .empty (depositChain 1 .empty) := ⟨rfl, rfl⟩
  have hstart : Reachable depositWorld ⟨[], depositChain 1 .empty, []⟩ :=
    .start hempty.1 hempty.2
  obtain ⟨w₁, hw₁, hnew₁⟩ := EventsWorld.new_eq tenBlocks hempty
  have hone : Reachable depositWorld ⟨[freshScanner], w₁, []⟩ :=
    hstart.move (.spawn tenBlocks _ hnew₁)
  obtain ⟨w₂, hw₂, hnew₂⟩ := EventsWorld.new_eq tenBlocks hw₁
  have htwo : Reachable depositWorld ⟨[freshScanner, freshScanner], w₂, []⟩ :=
    hone.move (.spawn tenBlocks _ hnew₂)
  have hready : Reachable depositWorld
      ⟨[freshScanner, freshScanner], depositChain 1 .empty, []⟩ :=
    htwo.move (.drift _ 0 hempty.1 (by rw [hw₂.2]; rfl))
  obtain ⟨b, w₃, s, hw₃, hposition, hfaults, hfirst⟩ := hready.committed hempty tenBlocks
    (i := 0) rfl (freshScanner_committed (.inl rfl) rfl (by decide))
  have hhigher : depositWorld.Holds s (depositChain 2 s) := ⟨rfl, rfl⟩
  have hdrifted : Reachable depositWorld
      ⟨[b, freshScanner], depositChain 2 s, [⟨0, ⟨1, 1⟩⟩]⟩ :=
    hfirst.move (.drift _ s.failingCommits hhigher.1 (by rw [hw₃.2]; rfl))
  have hbehind : s.position .parachain 1 < 2 := by
    change depositWorld.position s < 2
    rw [hposition]
    decide
  obtain ⟨b', w₄, s', hw₄, hposition', -, hsecond⟩ := hdrifted.committed hhigher tenBlocks
    (i := 1) rfl (freshScanner_committed (.inr rfl) hfaults hbehind)
  rw [hposition] at hsecond
  refine ⟨_, hsecond, ?_, rfl⟩
  rw [hw₄.2]
  exact hposition'

/-- However many writers share a store, and in whatever order they step: the store counts what
their commits hold, which is every event up to the stored cursor and no other one. Each event
is counted once if and only if no commit repeats one, and then the store counts like one
window. -/
theorem counted_once_iff_noneRepeated (hkeys : (events.map Event.key).Nodup)
    (h : Reachable x f) :
    (x.stored f.world).tally x.chain = .ofEvents (Journal.taken events f.journal) ∧
      (∀ e, e ∈ Journal.taken events f.journal ↔
        (e ∈ events ∧ e.isCounted) ∧ max x.initialBlock 1 ≤ e.block ∧
          e.block ≤ (x.stored f.world).position x.chain x.initialBlock) ∧
      ((∀ e ∈ Journal.taken events f.journal, (Journal.taken events f.journal).count e = 1) ↔
        Journal.NoneRepeated events f.journal) ∧
      (Journal.NoneRepeated events f.journal →
        (x.stored f.world).tally x.chain
          = .ofEvents (Event.ordered (x.upTo
              ((x.stored f.world).position x.chain x.initialBlock)))) := by
  obtain ⟨s, hs⟩ := sound_of_reachable hkeys h
  obtain ⟨-, rfl⟩ := hs.holds
  have hmem := Journal.mem_taken hkeys hs.journal
  refine ⟨hs.tally, fun e => ?_, ?_, fun hnone => ?_⟩
  · rw [hmem, Event.mem_counted hkeys]
    rfl
  · rw [← Journal.count_taken_eq_one_iff hkeys hs.journal]
    simp only [hmem]
  · rw [hs.tally, Journal.taken_of_noneRepeated hkeys hs.journal hnone,
      Event.counted_eq_filter hkeys, Tally.ofEvents_filter_isCounted]
    rfl

open LocalIndexer in
/-- The second commit repeats the deposit, and so it is not counted once. -/
theorem counted_once_iff_overlapping :
    ∃ f : Fleet LocalIndexer, Reachable depositWorld f ∧
      (depositWorld.stored f.world).tally .parachain
        = .ofEvents (Journal.taken [⟨1, 0, .deposited (.ofNat 2) (.ofUInt64 5)⟩] f.journal) ∧
      ¬ ∀ e ∈ Journal.taken [⟨1, 0, .deposited (.ofNat 2) (.ofUInt64 5)⟩] f.journal,
        (Journal.taken [⟨1, 0, .deposited (.ofNat 2) (.ofUInt64 5)⟩] f.journal).count e = 1 := by
  obtain ⟨f, hf, -, hjournal⟩ := exists_overlapping_commits
  obtain ⟨htally, -, hiff, -⟩ := counted_once_iff_noneRepeated (by decide) hf
  refine ⟨f, hf, htally, ?_⟩
  rw [hiff, hjournal]
  intro hnone
  have hcounted : Event.counted ⟨1, 2⟩ [⟨1, 0, .deposited (.ofNat 2) (.ofUInt64 5)⟩]
      = [⟨1, 0, .deposited (.ofNat 2) (.ofUInt64 5)⟩] := by cbv
  have hlater := hnone ⟨1, ⟨1, 2⟩⟩ (by simp) ⟨1, 0, .deposited (.ofNat 2) (.ofUInt64 5)⟩
    (by rw [hcounted]; exact List.mem_singleton_self _)
  exact absurd hlater (by decide)

open LocalIndexer in
/-- The deposit is the only event up to the stored cursor, and the store counts two. -/
theorem deposit_counted_twice :
    ∃ f : Fleet LocalIndexer, Reachable depositWorld f ∧
      depositWorld.upTo (depositWorld.position (depositWorld.stored f.world))
        = [⟨1, 0, .deposited (.ofNat 2) (.ofUInt64 5)⟩] ∧
      ((depositWorld.stored f.world).tally .parachain).depositedCount = 2 ∧
      ((depositWorld.stored f.world).tally .parachain).deposited = .ofUInt64 10 := by
  obtain ⟨f, hf, hposition, hjournal⟩ := exists_overlapping_commits
  obtain ⟨s, hs⟩ := sound_of_reachable (by decide) hf
  obtain ⟨-, rfl⟩ := hs.holds
  have htaken : Journal.taken [⟨1, 0, .deposited (.ofNat 2) (.ofUInt64 5)⟩] f.journal
      = [⟨1, 0, .deposited (.ofNat 2) (.ofUInt64 5)⟩,
        ⟨1, 0, .deposited (.ofNat 2) (.ofUInt64 5)⟩] := by
    rw [hjournal]
    cbv
  have htally := hs.tally
  rw [htaken] at htally
  refine ⟨f, hf, ?_, ?_, ?_⟩
  · rw [hposition]
    rfl
  · exact (congrArg Tally.depositedCount htally).trans (by decide)
  · exact (congrArg Tally.deposited htally).trans (by decide +kernel)

end Fleet
end StakingIndexer
