import Mathlib
import StakingIndexer.Proofs.Aggregate.History
import StakingIndexer.Proofs.Scan.SingleWriter

/-!
# Starting a scanner anew

A scanner that runs on keeps its history in the order of the events. One that is started in its
place takes the history from the store. Both are at the same block with the same state, but for
the reports of one ledger in one block: the store answers with them newest first, and restoring
leaves them so. The two scanners agree if and only if no block reads differently backwards.
-/

namespace StakingIndexer

theorem exists_of_map_eq_ok {ε α β : Type} {f : α → β} {r : Except ε α} {b : β}
    (h : r.map f = .ok b) : ∃ a, f a = b := by
  cases r with
  | error e => cases h
  | ok a =>
    cases h
    exact ⟨a, rfl⟩

theorem Event.block_of_row? {e : Event} {row : RewardRow} (h : e.row? = some row) :
    row.block = e.block := by
  have hreport : e.report = .ok (some row) := by
    unfold row? at h
    cases hr : e.report with
    | error x => rw [hr] at h; cases h
    | ok r => rw [hr] at h; cases h; rfl
  unfold report at hreport
  split at hreport
  · obtain ⟨r, hr⟩ := exists_of_map_eq_ok hreport
    cases hr
    rfl
  · obtain ⟨r, hr⟩ := exists_of_map_eq_ok hreport
    cases hr
    rfl
  · cases hreport

namespace EventAggregator

theorem rewardRows_blocks (a : EventAggregator) (s : AggregateState) (events : List Event) :
    ((a.window s events []).delta.rewardRows.Pairwise fun p q => p.block ≤ q.block) ∧
      ∀ row ∈ (a.window s events []).delta.rewardRows, ∃ e ∈ events, e.block = row.block := by
  rw [rewardRows_window]
  constructor
  · rw [List.pairwise_filterMap]
    refine (Event.pairwise_ordered events).imp fun {d e} hde p hp q hq => ?_
    rw [Event.block_of_row? hp, Event.block_of_row? hq]
    rcases hde with hlt | ⟨heq, -⟩
    · exact UInt64.le_of_lt hlt
    · exact UInt64.le_of_eq heq
  · intro row hrow
    obtain ⟨e, he, hr⟩ := List.mem_filterMap.1 hrow
    exact ⟨e, Event.mem_of_mem_ordered he, (Event.block_of_row? hr).symm⟩

end EventAggregator

namespace EventsWorld

variable {ω : Type} {events : List Event} {x : EventsWorld ω events}

section Ahead

variable {s : MemoryStore} {w : ω} {b : BlockScanner} {window : BlockWindow}

theorem lt_position_of_commit (config : ScannerConfig) (h : x.Holds s w) {last : UInt64}
    {out : ScanOutput} (hlast : b.cursor < last)
    (hcommit : (BlockScanner.commit (x.loop config) ⟨b.cursor + 1, last⟩ out b w).1
      = .ok (.alreadyApplied window)) : b.cursor < x.position s := by
  unfold BlockScanner.commit at hcommit
  dsimp only at hcommit
  rw [storeCommit_eq config h] at hcommit
  unfold MemoryStore.commit at hcommit
  split_ifs at hcommit with hfailing hnew
  · cases hcommit
  · rw [MemoryStore.isNew_iff] at hnew
    push Not at hnew
    obtain ⟨stored, hstored, hle⟩ := hnew
    have hposition : x.position s = stored.block := by
      rw [position, MemoryStore.position, hstored]
    rw [hposition]
    exact UInt64.lt_of_lt_of_le hlast (UInt64.not_lt.1 hle)

/-- A window has been applied already only if the store is ahead of the scanner. -/
theorem lt_position_of_alreadyApplied (config : ScannerConfig) (h : x.Holds s w)
    (hstep : (BlockScanner.step (x.loop config) b w).1 = .ok (.alreadyApplied window)) :
    b.cursor < x.position s := by
  have hheight := (currentHeight_meets config s w h).1
  unfold BlockScanner.step at hstep
  dsimp only at hstep
  generalize (x.loop config).target.currentHeight w = r at hheight hstep
  obtain ⟨e | height, w₁⟩ := r
  · cases hstep
  · dsimp only at hstep
    cases hnext : Scan.nextWindow (x.loop config).target.kind b.cursor height b.range with
    | none =>
      rw [hnext] at hstep
      cases hstep
    | some next =>
      obtain ⟨hlast, hwindow⟩ := Scan.nextWindow_ranged hnext
      obtain ⟨hread, hscan⟩ := scan_effect config hheight next b.state
      rw [hnext] at hstep
      dsimp only at hstep
      generalize (x.loop config).target.scan next b.state w₁ = r at hread hscan hstep
      obtain ⟨result, w₂⟩ := r
      obtain ⟨e, rfl⟩ | ⟨answer, applied, -, -, rfl⟩ := hscan
      · cases hstep
      · rw [hwindow] at hstep
        exact lt_position_of_commit config (b := { b with phase := .scanning _ }) hread hlast
          hstep

end Ahead

variable (x) in
/-- What a scanner and its world can come to from a store that is empty, while nobody else
writes to it and the scanner is not started anew. -/
inductive Unbroken : BlockScanner × ω → Prop
  | start (config : ScannerConfig) {w : ω} {b : BlockScanner} {w' : ω} (hserves : x.serves w)
      (hempty : x.stored w = .empty) (hnew : BlockScanner.new (x.loop config) w = (.ok b, w')) :
      Unbroken (b, w')
  | step (config : ScannerConfig) {b : BlockScanner} {w : ω} (h : Unbroken (b, w)) :
      Unbroken (BlockScanner.step (x.loop config) b w).2
  | recover (config : ScannerConfig) (e : ScanError) {b : BlockScanner} {w : ω}
      (h : Unbroken (b, w)) : Unbroken (BlockScanner.onError (x.loop config) e b w).2
  | drift {b : BlockScanner} {w w' : ω} (faults : Nat) (h : Unbroken (b, w))
      (hserves : x.serves w') (hstored : x.stored w' = (x.stored w).failNextCommits faults) :
      Unbroken (b, w')

/-- The scanner has what the store has, and the last reports in the order of the events. -/
structure Live (x : EventsWorld ω events) (s : MemoryStore) (b : BlockScanner) : Prop where
  cursor : b.cursor = x.position s
  chain : (s.aggregate x.chain).chain = x.chain
  state : b.state = { s.aggregate x.chain with
    recentRewards := s.rewards.foldl (AggregateState.pushRow x.aggregator.historyLimit) .empty }
  ascending : s.rewards.Pairwise fun p q => p.block ≤ q.block
  upTo : ∀ row ∈ s.rewards, row.block ≤ x.position s

variable {s : MemoryStore} {b : BlockScanner}

variable (x) in
theorem restored_empty : x.restored .empty = .empty x.chain := by
  simp [restored, AggregateState.withHistory, MemoryStore.recentRewards, MemoryStore.empty,
    MemoryStore.reportingLedgers, MemoryStore.aggregate, AggregateState.empty, AddressMap.keys,
    AddressMap.empty]

theorem live_new (b : BlockScanner) (hcursor : b.cursor = x.position .empty)
    (hstate : b.state = x.restored .empty) : x.Live .empty b := by
  refine ⟨hcursor, ?_, ?_, .nil, fun row hrow => by cases hrow⟩
  · rw [MemoryStore.aggregate_empty]
    rfl
  · rw [hstate, restored_empty, MemoryStore.aggregate_empty]
    rfl

theorem live_committed (h : x.Live s b) {last : UInt64} {answer : List Event}
    {applied : AppliedWindow} {now : Int} {b' : BlockScanner} (hlast : b.cursor < last)
    (hanswer : answer.Perm (Event.within ⟨b.cursor + 1, last⟩ events))
    (happly : x.aggregator.apply b.state answer [] = .ok applied) (hcursor : b'.cursor = last)
    (hstate : b'.state = applied.state) :
    x.Live (s.apply ⟨x.chain, .events, last, now⟩ applied.delta) b' := by
  obtain ⟨-, rfl⟩ := EventAggregator.apply_eq_ok_iff.1 happly
  obtain ⟨-, hdelta⟩ := EventAggregator.chain_of_apply happly
  obtain ⟨hascending, hblocks⟩ := EventAggregator.rewardRows_blocks x.aggregator b.state answer
  have hposition := x.position_apply s last now (x.aggregator.window b.state answer []).delta
  have hchain : (x.aggregator.window b.state answer []).delta.chain = x.chain := by
    rw [hdelta, h.state]
    exact h.chain
  have hbehind : ∀ row ∈ (x.aggregator.window b.state answer []).delta.rewardRows,
      b.cursor < row.block ∧ row.block ≤ last := by
    intro row hrow
    obtain ⟨e, he, heq⟩ := hblocks row hrow
    obtain ⟨-, hfirst, hle⟩ := Event.mem_within.1 (hanswer.mem_iff.1 he)
    rw [heq] at hfirst hle
    refine ⟨?_, hle⟩
    rw [UInt64.le_iff_toNat_le, Word.toNat_succ hlast] at hfirst
    exact UInt64.lt_iff_toNat_lt.2 hfirst
  refine ⟨hcursor.trans hposition.symm, ?_, ?_, ?_, ?_⟩
  · rw [MemoryStore.aggregate_apply s _ hchain]
    exact h.chain
  · rw [hstate, EventAggregator.state_window, MemoryStore.aggregate_apply s _ hchain]
    have hpushed := congrArg AggregateState.recentRewards h.state
    generalize (x.aggregator.window b.state answer []).delta = d at *
    unfold AggregateState.replay
    rw [hpushed, ← List.foldl_append, h.state]
    rfl
  · refine List.pairwise_append.2 ⟨h.ascending, hascending, fun p hp q hq => ?_⟩
    have hle := h.cursor ▸ h.upTo p hp
    exact UInt64.le_of_lt (UInt64.lt_of_le_of_lt hle (hbehind q hq).1)
  · rw [hposition]
    intro row hrow
    rcases List.mem_append.1 hrow with hold | hnew
    · have hle := h.cursor ▸ h.upTo row hold
      exact UInt64.le_of_lt (UInt64.lt_of_le_of_lt hle hlast)
    · exact (hbehind row hnew).2

theorem live_of_stepEffect (h : x.Live s b) {outcome : Except ScanError StepOutcome}
    {b' : BlockScanner} {s' : MemoryStore}
    (hstep : StepEffect x.aggregator x.chain events b.cursor b.state s outcome b' s')
    (hfirst : ∀ window, outcome ≠ .ok (.alreadyApplied window)) : x.Live s' b' := by
  cases hstep with
  | kept faults houtcome hcursor hstate =>
    exact ⟨hcursor.trans h.cursor, h.chain, hstate.trans h.state, h.ascending, h.upTo⟩
  | @reloaded window => exact absurd rfl (hfirst window)
  | committed now hlast hanswer happly hnew hcursor hstate =>
    exact live_committed h hlast hanswer happly hcursor hstate

theorem live_of_unbroken {p : BlockScanner × ω} (h : x.Unbroken p) :
    ∃ s, x.Holds s p.2 ∧ x.Live s p.1 := by
  induction h with
  | start config hserves hempty hnew =>
    obtain ⟨w₁, hw₁, heq⟩ := new_eq config ⟨hserves, hempty⟩
    rw [heq] at hnew
    cases hnew
    exact ⟨.empty, hw₁, live_new _ rfl rfl⟩
  | @step config b w _ ih =>
    obtain ⟨s, hw, hlive⟩ := ih
    obtain ⟨s', hw', heffect⟩ := step_effect config hw b
    refine ⟨s', hw', live_of_stepEffect hlive heffect fun window hwindow => ?_⟩
    have hahead := lt_position_of_alreadyApplied config hw hwindow
    rw [hlive.cursor] at hahead
    exact UInt64.lt_irrefl _ hahead
  | @recover config e b w _ ih =>
    obtain ⟨s, hw, hlive⟩ := ih
    obtain ⟨hw', hcursor, hstate⟩ := onError_effect config hw e b
    exact ⟨s, hw', hcursor.trans hlive.cursor, hlive.chain, hstate.trans hlive.state,
      hlive.ascending, hlive.upTo⟩
  | drift faults _ hserves hstored ih =>
    obtain ⟨s, hw, hlive⟩ := ih
    refine ⟨s.failNextCommits faults, ⟨hserves, by rw [hstored, hw.2]⟩, ?_⟩
    exact ⟨hlive.cursor, hlive.chain, hlive.state, hlive.ascending, hlive.upTo⟩

/-- A window that is stored appends the reports of its events by place. -/
theorem recentRewards_of_committed (hkeys : (events.map Event.key).Nodup)
    (config : ScannerConfig) {w : ω} (h : x.Holds s w) {window : BlockWindow}
    (hstep : (BlockScanner.step (x.loop config) b w).1 = .ok (.committed window)) :
    (BlockScanner.step (x.loop config) b w).2.1.state.recentRewards
      = ((Event.ordered (Event.within window events)).filterMap Event.row?).foldl
          (AggregateState.pushRow x.aggregator.historyLimit) b.state.recentRewards := by
  obtain ⟨s', -, heffect⟩ := step_effect config h b
  generalize BlockScanner.step (x.loop config) b w = r at hstep heffect ⊢
  obtain ⟨outcome, b', w'⟩ := r
  dsimp only at hstep heffect ⊢
  subst hstep
  cases heffect with
  | kept faults houtcome => exact absurd rfl (houtcome window)
  | committed now hlast hanswer happly hnew hcursor hstate =>
    obtain ⟨-, rfl⟩ := EventAggregator.apply_eq_ok_iff.1 happly
    have hordered := Event.ordered_perm hanswer
      ((hanswer.map Event.key).nodup_iff.2 (Event.nodup_keys_within hkeys _))
    rw [hstate, EventAggregator.state_window, ← hordered,
      ← EventAggregator.rewardRows_window x.aggregator b.state]
    rfl

/-- The history of each ledger is restored, but with the reports of one block in reverse. -/
theorem restored_history (hlimit : 1 ≤ x.aggregator.historyLimit) (h : x.Live s b)
    (ledger : Address) :
    (x.restored s).recentRewards.get? ledger
      = (b.state.recentRewards.get? ledger).map AggregateState.mirrored := by
  rw [h.state, AggregateState.get?_foldl_pushRow, restored, AggregateState.get?_withHistory,
    MemoryStore.filter_recentRewards, MemoryStore.ledgerRewards_eq_reverse h.ascending]
  by_cases hnone : s.rewards.filter (·.ledger == ledger) = []
  · simp [hnone]
  · have hkept := mt (AggregateState.keepLast_eq_nil_iff hlimit).1 hnone
    rw [AggregateState.keepLast_eq, List.reverse_eq_nil_iff] at hkept
    rw [if_neg hkept, if_neg hnone, Option.map_some, AggregateState.mirrored,
      AggregateState.keepLast_eq, List.reverse_reverse]

/-- A scanner that is started in the place of a running one has its cursor, and its history but
for the reports of one ledger in one block, which come in reverse. It has the same state if and
only if this makes no difference. -/
theorem restored_eq_iff_blocks_palindromic (hlimit : 1 ≤ x.aggregator.historyLimit)
    {b : BlockScanner} {w : ω} (h : x.Unbroken (b, w)) :
    b.cursor = x.position (x.stored w) ∧
      (∀ ledger, (x.restored (x.stored w)).recentRewards.get? ledger
        = (b.state.recentRewards.get? ledger).map AggregateState.mirrored) ∧
      (x.restored (x.stored w) = b.state ↔
        ∀ ledger rows, b.state.recentRewards.get? ledger = some rows →
          ∀ block, (rows.filter (·.block = block)).reverse
            = rows.filter (·.block = block)) := by
  obtain ⟨s, ⟨-, rfl⟩, hlive⟩ := live_of_unbroken h
  have hhistory := restored_history hlimit hlive
  have hsorted : ∀ ledger rows, b.state.recentRewards.get? ledger = some rows →
      rows.Pairwise fun p q => p.block ≤ q.block := by
    intro ledger rows hrows
    rw [hlive.state, AggregateState.get?_foldl_pushRow] at hrows
    split_ifs at hrows
    cases hrows
    exact AggregateState.pairwise_keepLast (hlive.ascending.filter _) _
  refine ⟨hlive.cursor, hhistory, ?_⟩
  constructor
  · intro heq ledger rows hrows
    have hmirrored := hhistory ledger
    rw [heq, hrows, Option.map_some, Option.some.injEq] at hmirrored
    exact (AggregateState.mirrored_eq_self_iff (hsorted ledger rows hrows)).1 hmirrored.symm
  · intro hblocks
    have hrecent : (x.restored (x.stored w)).recentRewards = b.state.recentRewards := by
      refine AddressMap.ext_get? fun ledger => ?_
      rw [hhistory]
      cases hrows : b.state.recentRewards.get? ledger with
      | none => rfl
      | some rows =>
        have hself := (AggregateState.mirrored_eq_self_iff (hsorted ledger rows hrows)).2
          (hblocks ledger rows hrows)
        rw [Option.map_some, hself]
    have hstate : b.state = { (x.stored w).aggregate x.chain with
        recentRewards := b.state.recentRewards } := by rw [hlive.state]
    rw [hstate, ← hrecent]
    rfl

end EventsWorld

namespace LocalIndexer

def twoInBlock (p q : EventPayload) (store : MemoryStore) : LocalIndexer :=
  { answering p 1 store with
    chain := { LocalChain.empty [] with height := 1, events := [⟨1, 0, p⟩, ⟨1, 1, q⟩] } }

theorem fetchEvents_twoInBlock (a : EventAggregator) (p q : EventPayload) (s : MemoryStore) :
    ((eventsWorld a .parachain 1 [⟨1, 0, p⟩, ⟨1, 1, q⟩]).link.fetchEvents
      (eventsWorld a .parachain 1 [⟨1, 0, p⟩, ⟨1, 1, q⟩]).logs ⟨1, 1⟩
      (((eventsWorld a .parachain 1 [⟨1, 0, p⟩, ⟨1, 1, q⟩]).loop tenBlocks).target.currentHeight
        (twoInBlock p q s)).2).1 = .ok [⟨1, 0, p⟩, ⟨1, 1, q⟩] := by
  cbv

/-- A ledger that is reported twice in the first block. -/
abbrev twoReports : List Event :=
  [⟨1, 0, .rewards (.ofNat 7) (.ofUInt64 5) (.ofUInt64 90)⟩,
    ⟨1, 1, .rewards (.ofNat 7) (.ofUInt64 6) (.ofUInt64 96)⟩]

abbrev reportRow (reward balance block : UInt64) : RewardRow :=
  ⟨.ofNat 7, ((Amount.ofUInt64 reward).toSigned?).getD default, .ofUInt64 balance, block⟩

abbrev reportWorld : EventsWorld LocalIndexer twoReports :=
  eventsWorld (.ofConstants .standard 2) .parachain 1 twoReports

theorem ordered_twoReports : Event.ordered twoReports = twoReports :=
  Event.ordered_eq_self (by decide)

theorem filterMap_row?_twoReports :
    twoReports.filterMap Event.row? = [reportRow 5 90 1, reportRow 6 96 1] := by
  decide +kernel

abbrev reportChain : LocalIndexer :=
  twoInBlock (.rewards (.ofNat 7) (.ofUInt64 5) (.ofUInt64 90))
    (.rewards (.ofNat 7) (.ofUInt64 6) (.ofUInt64 96)) .empty

def reportScanner : BlockScanner :=
  ⟨MemoryStore.empty.position .parachain 1, reportWorld.restored .empty,
    BlockScanner.fullRange (reportWorld.loop tenBlocks), 0, .idle⟩

theorem unbroken_reportScanner : reportWorld.Unbroken (reportScanner, reportChain) := by
  have hempty : reportWorld.Holds .empty reportChain := ⟨rfl, rfl⟩
  obtain ⟨w₁, hw₁, hnew⟩ := EventsWorld.new_eq tenBlocks hempty
  have hstarted : reportWorld.Unbroken (reportScanner, w₁) :=
    .start tenBlocks hempty.1 hempty.2 hnew
  exact hstarted.drift 0 hempty.1 (by rw [hw₁.2]; rfl)

theorem reportScanner_committed :
    (BlockScanner.step (reportWorld.loop tenBlocks) reportScanner reportChain).1
      = .ok (.committed ⟨1, 1⟩) := by
  have hcheck : EventAggregator.checkWindow reportScanner.state twoReports = .ok () := by
    rw [EventAggregator.checkWindow, ordered_twoReports]
    decide +kernel
  have hheight : ((reportWorld.loop tenBlocks).target.currentHeight reportChain).1 = .ok 1 := rfl
  exact EventsWorld.step_committed tenBlocks ⟨rfl, rfl⟩ hheight (by decide)
    (fetchEvents_twoInBlock _ _ _ _) (EventAggregator.apply_of_checkWindow _ [] hcheck) rfl
    (by decide)

theorem exists_unbroken_twoReports :
    ∃ b w, reportWorld.Unbroken (b, w) ∧ reportWorld.position (reportWorld.stored w) = 1 ∧
      b.state.recentRewards.get? (.ofNat 7) = some [reportRow 5 90 1, reportRow 6 96 1] := by
  have hempty : reportWorld.Holds .empty reportChain := ⟨rfl, rfl⟩
  obtain ⟨s, hs, hposition, -⟩ :=
    EventsWorld.position_of_committed tenBlocks hempty reportScanner_committed
  refine ⟨_, _, unbroken_reportScanner.step tenBlocks, hs.2 ▸ hposition, ?_⟩
  have hwithin : Event.within ⟨1, 1⟩ twoReports = twoReports := by decide
  rw [EventsWorld.recentRewards_of_committed (by decide) tenBlocks hempty reportScanner_committed,
    hwithin, ordered_twoReports, filterMap_row?_twoReports, reportScanner,
    EventsWorld.restored_empty]
  decide

end LocalIndexer

open LocalIndexer in
theorem EventsWorld.restored_eq_iff_blocks_palindromic_twoReports :
    1 ≤ reportWorld.aggregator.historyLimit ∧ ∃ b w, reportWorld.Unbroken (b, w) ∧
      b.cursor = reportWorld.position (reportWorld.stored w) ∧
      (∀ ledger, (reportWorld.restored (reportWorld.stored w)).recentRewards.get? ledger
        = (b.state.recentRewards.get? ledger).map AggregateState.mirrored) ∧
      (reportWorld.restored (reportWorld.stored w) = b.state ↔
        ∀ ledger rows, b.state.recentRewards.get? ledger = some rows →
          ∀ block, (rows.filter (·.block = block)).reverse
            = rows.filter (·.block = block)) := by
  obtain ⟨b, w, hunbroken, -⟩ := exists_unbroken_twoReports
  have hlimit : 1 ≤ reportWorld.aggregator.historyLimit := by decide
  exact ⟨hlimit, b, w, hunbroken,
    EventsWorld.restored_eq_iff_blocks_palindromic hlimit hunbroken⟩

open LocalIndexer in
/-- Behind two reports of one ledger in one block a scanner that is started anew has them in
reverse, and evicts the other one of them at the next report. -/
theorem EventsWorld.restored_reversed_twoReports :
    ∃ b w, reportWorld.Unbroken (b, w) ∧ reportWorld.position (reportWorld.stored w) = 1 ∧
      b.state.recentRewards.get? (.ofNat 7) = some [reportRow 5 90 1, reportRow 6 96 1] ∧
      (reportWorld.restored (reportWorld.stored w)).recentRewards.get? (.ofNat 7)
        = some [reportRow 6 96 1, reportRow 5 90 1] ∧
      (b.state.pushReward (reportRow 8 99 2) 2).recentRewards.get? (.ofNat 7)
        = some [reportRow 6 96 1, reportRow 8 99 2] ∧
      ((reportWorld.restored (reportWorld.stored w)).pushReward
          (reportRow 8 99 2) 2).recentRewards.get? (.ofNat 7)
        = some [reportRow 5 90 1, reportRow 8 99 2] := by
  obtain ⟨b, w, hunbroken, hposition, hlive⟩ := exists_unbroken_twoReports
  obtain ⟨s, ⟨-, rfl⟩, hs⟩ := EventsWorld.live_of_unbroken hunbroken
  have hrestored := EventsWorld.restored_history (by decide) hs (.ofNat 7)
  have hmirrored : AggregateState.mirrored [reportRow 5 90 1, reportRow 6 96 1]
      = [reportRow 6 96 1, reportRow 5 90 1] := by
    simp [AggregateState.mirrored, AggregateState.byBlock, List.mergeSort_of_pairwise]
  rw [hlive, Option.map_some, hmirrored] at hrestored
  refine ⟨b, w, hunbroken, hposition, hlive, hrestored, ?_, ?_⟩
  · simp [AggregateState.pushReward, AddressMap.update, hlive, AggregateState.keepLast]
  · simp [AggregateState.pushReward, AddressMap.update, hrestored, AggregateState.keepLast]

end StakingIndexer
