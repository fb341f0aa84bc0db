import Mathlib
import StakingIndexer.Proofs.Aggregate.Holders
import StakingIndexer.Proofs.Scan.LocalWorld
import StakingIndexer.Proofs.Scan.Loops
import StakingIndexer.Proofs.Scan.SharedCursor

/-!
# Holders in a store that loops share

One loop over events writes the holders of the parachain, and other loops write other fields of
the same state whenever they come to it. The loop's own state and the stored one have the same
holders throughout, so that the number which a change carries fits the balances that it meets.
-/

namespace StakingIndexer

/-- What loops that read no events may make of a store, whose commits may be told to fail. -/
inductive OthersWrite (s : MemoryStore) : MemoryStore → Prop
  | refl : OthersWrite s s
  | commit {t : MemoryStore} (h : OthersWrite s t) (x : LoopCommit)
      (hx : x.cursor.target ≠ .events) : OthersWrite s (LoopCommit.step t x)
  | fault {t : MemoryStore} (h : OthersWrite s t) (n : Nat) : OthersWrite s (t.failNextCommits n)

/-- The store keeps counted holders of the parachain. -/
structure StoresHolders (s : MemoryStore) : Prop where
  chain : (s.aggregate .parachain).chain = .parachain
  counted : (s.aggregate .parachain).HoldersCounted

/-- A state of the parachain has the stored holders. -/
structure Tracks (state : AggregateState) (s : MemoryStore) : Prop where
  chain : state.chain = .parachain
  holders : state.holders = (s.aggregate .parachain).holders

theorem storesHolders_empty : StoresHolders .empty := by
  refine ⟨?_, ?_⟩
  all_goals rw [MemoryStore.aggregate_empty]
  · rfl
  · exact AggregateState.holdersCounted_empty .parachain

theorem StoresHolders.tracks {s : MemoryStore} (h : StoresHolders s) :
    Tracks (s.aggregate .parachain) s := ⟨h.chain, rfl⟩

theorem Tracks.withHistory {state : AggregateState} {s : MemoryStore} (h : Tracks state s)
    (rows : List RewardRow) : Tracks (state.withHistory rows) s := ⟨h.chain, h.holders⟩

theorem Tracks.apply {state : AggregateState} {s : MemoryStore} (h : Tracks state s)
    (hs : StoresHolders s) {a : EventAggregator} {events : List Event} {applied : AppliedWindow}
    (happly : a.apply state events [] = .ok applied) (cursor : ScanCursor) :
    StoresHolders (s.apply cursor applied.delta) ∧
      Tracks applied.state (s.apply cursor applied.delta) := by
  obtain ⟨hnext, hdelta⟩ := EventAggregator.chain_of_apply happly
  rw [h.chain] at hnext hdelta
  have hstored : (s.apply cursor applied.delta).aggregate .parachain
      = (s.aggregate .parachain).applyDelta applied.delta := s.aggregate_apply cursor hdelta
  have hholders : ((s.aggregate .parachain).applyDelta applied.delta).holders
      = applied.state.holders :=
    EventAggregator.holders_applyDelta_of_apply happly h.holders.symm
  have hcounted : applied.state.HoldersCounted :=
    EventAggregator.holdersCounted_apply (hs.counted.of_holders_eq h.holders) happly
  refine ⟨⟨?_, ?_⟩, hnext, ?_⟩
  · rw [hstored]
    exact hs.chain
  · rw [hstored]
    exact hcounted.of_holders_eq hholders
  · rw [hstored, hholders]

theorem LoopDelta.holders_applyDelta {t : TargetId} {d : AggregateDelta} (h : LoopDelta t d)
    (ht : t ≠ .events) (s : AggregateState) : (s.applyDelta d).holders = s.holders := by
  cases t with
  | events => exact absurd rfl ht
  | parachainState =>
    obtain ⟨snapshot, price, rfl⟩ := h.eq_of_parachainState
    exact AggregateState.holders_applyDelta_of_none rfl rfl s
  | relayState =>
    obtain ⟨scalars, relayLedgers, rfl⟩ := h.eq_of_relayState
    exact AggregateState.holders_applyDelta_of_none rfl rfl s
  | validatorsInfo =>
    obtain ⟨infos, rfl⟩ := h.eq_of_validatorsInfo
    exact AggregateState.holders_applyDelta_of_none rfl rfl s

/-- A commit of another loop leaves chain and holders of the state as they are. -/
theorem LoopCommit.holders_step (s : MemoryStore) (x : LoopCommit)
    (hx : x.cursor.target ≠ .events) :
    ((step s x).aggregate .parachain).chain = (s.aggregate .parachain).chain ∧
      ((step s x).aggregate .parachain).holders = (s.aggregate .parachain).holders := by
  rw [step]
  obtain ⟨e, n, h⟩ | ⟨-, h⟩ | ⟨-, h⟩ := s.commit_cases x.cursor x.delta
  · rw [h]
    exact ⟨rfl, rfl⟩
  · rw [h, MemoryStore.aggregate_apply_eq]
    split_ifs
    · exact ⟨rfl, x.made.holders_applyDelta hx _⟩
    · exact ⟨rfl, rfl⟩
  · rw [h]
    exact ⟨rfl, rfl⟩

namespace OthersWrite

variable {s t u : MemoryStore}

theorem trans (h : OthersWrite s t) (h' : OthersWrite t u) : OthersWrite s u := by
  induction h' with
  | refl => exact h
  | commit _ x hx ih => exact ih.commit x hx
  | fault _ n ih => exact ih.fault n

theorem stores (h : OthersWrite s t) (hs : StoresHolders s) : StoresHolders t := by
  induction h with
  | refl => exact hs
  | @commit t _ x hx ih =>
    obtain ⟨hchain, hholders⟩ := LoopCommit.holders_step t x hx
    exact ⟨hchain.trans ih.chain, ih.counted.of_holders_eq hholders⟩
  | fault _ n ih => exact ⟨ih.chain, ih.counted⟩

theorem tracks {state : AggregateState} (h : OthersWrite s t) (hs : Tracks state s) :
    Tracks state t := by
  induction h with
  | refl => exact hs
  | @commit t _ x hx ih =>
    exact ⟨ih.chain, ih.holders.trans (LoopCommit.holders_step t x hx).2.symm⟩
  | fault _ n ih => exact ⟨ih.chain, ih.holders⟩

end OthersWrite

variable {ω : Type}

/-- A store answers as the one in memory does at some time during the call. -/
def Serves {α : Type} (stored : ω → MemoryStore) (a : Action ω StoreError α)
    (op : Action MemoryStore StoreError α) : Prop :=
  ∀ w, ∃ s, OthersWrite (stored w) s ∧ (a w).1 = (op s).1 ∧ OthersWrite (op s).2 (stored (a w).2)

/-- A loop over the events of the parachain, whatever its nodes answer, over a store in memory to
which other loops write while it waits. -/
structure EventsLoop (stored : ω → MemoryStore) (l : ScanLoop ω) : Prop where
  target : ∃ a link height logs initialBlock,
    l.target = EventsTarget.target a .parachain link l.store height logs initialBlock
  loadCursor : Serves stored (l.store.loadCursor .parachain .events)
    (MemoryStore.store.loadCursor .parachain .events)
  loadState : Serves stored (l.store.loadState .parachain) (MemoryStore.store.loadState .parachain)
  commit : ∀ c d, Serves stored (l.store.commit c d) (MemoryStore.store.commit c d)
  touches : ∀ {w w'}, l.Touches w w' → OthersWrite (stored w) (stored w')

/-- The stored holders are counted, and a scanner has them in its state. -/
structure Holding (stored : ω → MemoryStore) (state : AggregateState) (w : ω) : Prop where
  stores : StoresHolders (stored w)
  tracks : Tracks state (stored w)

namespace Holding

variable {stored : ω → MemoryStore} {state : AggregateState} {w w' : ω}

theorem later (h : Holding stored state w) (hwrites : OthersWrite (stored w) (stored w')) :
    Holding stored state w' :=
  ⟨hwrites.stores h.stores, hwrites.tracks h.tracks⟩

end Holding

namespace EventsLoop

variable {stored : ω → MemoryStore} {l : ScanLoop ω} (hl : EventsLoop stored l) {w : ω}
include hl

theorem chain_eq : l.target.chain = .parachain := by
  obtain ⟨a, link, height, logs, initialBlock, htarget⟩ := hl.target
  rw [htarget]
  rfl

theorem id_eq : l.target.id = .events := by
  obtain ⟨a, link, height, logs, initialBlock, htarget⟩ := hl.target
  rw [htarget]
  rfl

theorem hydrate_tracks {s : MemoryStore} {state state' : AggregateState} (h : Tracks state s)
    (hhydrate : (l.target.hydrate state w).1 = .ok state') : Tracks state' s := by
  obtain ⟨a, link, height, logs, initialBlock, htarget⟩ := hl.target
  rw [htarget] at hhydrate
  change (EventsTarget.hydrate a l.store state w).1 = _ at hhydrate
  unfold EventsTarget.hydrate at hhydrate
  rw [Action.bind_eq] at hhydrate
  generalize ((l.store.recentRewards a.historyLimit).mapError ScanError.store w) = r at hhydrate
  obtain ⟨e | rows, w'⟩ := r
  · cases hhydrate
  · cases hhydrate
    exact h.withHistory rows

theorem scan_output {window : BlockWindow} {state : AggregateState} {out : ScanOutput}
    (hscan : (l.target.scan window state w).1 = .output out) :
    ∃ (a : EventAggregator) (events : List Event) (applied : AppliedWindow),
      a.apply state events [] = .ok applied ∧ out = ⟨applied.state, applied.delta, []⟩ := by
  obtain ⟨a, link, height, logs, initialBlock, htarget⟩ := hl.target
  rw [htarget] at hscan
  change (EventsTarget.scan a link logs window state w).1 = _ at hscan
  unfold EventsTarget.scan at hscan
  generalize link.fetchEvents logs window w = r at hscan
  obtain ⟨e | events, w'⟩ := r
  · cases hscan
  · dsimp only at hscan
    cases happly : a.apply state events [] with
    | error e =>
      rw [happly] at hscan
      cases hscan
    | ok applied =>
      rw [happly] at hscan
      cases hscan
      exact ⟨a, events, applied, happly, rfl⟩

theorem publishAll (gauges : List Gauge) (w : ω) :
    OthersWrite (stored w) (stored (BlockScanner.publishAll l gauges w)) := by
  unfold BlockScanner.publishAll
  induction gauges generalizing w with
  | nil => exact .refl
  | cons g gauges ih => exact (hl.touches (.publish g)).trans (ih (l.publish g w))

theorem loadState_effect (hs : StoresHolders (stored w)) :
    OthersWrite (stored w) (stored (BlockScanner.loadState l w).2) ∧
      ∀ state, (BlockScanner.loadState l w).1 = .ok state →
        Tracks state (stored (BlockScanner.loadState l w).2) := by
  obtain ⟨s, hbefore, hanswer, hafter⟩ := hl.loadState w
  unfold BlockScanner.loadState
  rw [Action.bind_eq, hl.chain_eq]
  unfold Action.mapError
  dsimp only
  generalize l.store.loadState .parachain w = r at hanswer hafter
  obtain ⟨answer, w'⟩ := r
  dsimp only at hanswer hafter
  subst hanswer
  have hread : OthersWrite (stored w) (stored w') := hbefore.trans hafter
  have htracks : Tracks (s.aggregate .parachain) (stored w') :=
    OthersWrite.tracks hafter (hbefore.stores hs).tracks
  have hhydrate := hl.touches (.hydrate (w := w') (s.aggregate .parachain))
  refine ⟨hread.trans hhydrate, fun state hstate => ?_⟩
  exact hhydrate.tracks (hl.hydrate_tracks htracks hstate)

/-- A reload leaves the state as it is, or takes over the stored holders. -/
theorem reload_effect (hs : StoresHolders (stored w)) (b : BlockScanner) :
    OthersWrite (stored w) (stored (BlockScanner.reload l b w).2.2) ∧
      ((∃ e, (BlockScanner.reload l b w).1 = .error e) ∧
          (BlockScanner.reload l b w).2.1.state = b.state ∨
        Tracks (BlockScanner.reload l b w).2.1.state
          (stored (BlockScanner.reload l b w).2.2)) := by
  obtain ⟨s, hbefore, hanswer, hafter⟩ := hl.loadCursor w
  unfold BlockScanner.reload
  rw [hl.chain_eq, hl.id_eq]
  generalize l.store.loadCursor .parachain .events w = r at hanswer hafter
  obtain ⟨answer, w'⟩ := r
  obtain rfl : answer = .ok (s.cursor .parachain .events) := hanswer
  have hread : OthersWrite (stored w) (stored w') := hbefore.trans hafter
  obtain ⟨hloaded, htracks⟩ := hl.loadState_effect (hread.stores hs)
  dsimp only
  generalize BlockScanner.loadState l w' = r at hloaded htracks
  obtain ⟨e | state, w''⟩ := r
  · refine ⟨hread.trans hloaded, .inl ⟨⟨e, rfl⟩, ?_⟩⟩
    cases s.cursor .parachain .events <;> rfl
  · exact ⟨hread.trans hloaded, .inr (htracks state rfl)⟩

theorem reload_holding {b : BlockScanner} (h : Holding stored b.state w) :
    Holding stored (BlockScanner.reload l b w).2.1.state (BlockScanner.reload l b w).2.2 := by
  obtain ⟨hwrites, ⟨-, hsame⟩ | hloaded⟩ := hl.reload_effect h.stores b
  · exact hsame ▸ h.later hwrites
  · exact ⟨hwrites.stores h.stores, hloaded⟩

theorem commit_holding {b : BlockScanner} (h : Holding stored b.state w) (window : BlockWindow)
    {a : EventAggregator} {events : List Event} {applied : AppliedWindow}
    (happly : a.apply b.state events [] = .ok applied) :
    Holding stored (BlockScanner.commit l window ⟨applied.state, applied.delta, []⟩ b w).2.1.state
      (BlockScanner.commit l window ⟨applied.state, applied.delta, []⟩ b w).2.2 := by
  unfold BlockScanner.commit
  dsimp only
  obtain ⟨s, hbefore, hanswer, hafter⟩ :=
    hl.commit ⟨l.target.chain, l.target.id, window.last, l.now w⟩ applied.delta w
  generalize l.store.commit ⟨l.target.chain, l.target.id, window.last, l.now w⟩ applied.delta w = r
    at hanswer hafter ⊢
  obtain ⟨answer, w'⟩ := r
  have hs : StoresHolders s := hbefore.stores h.stores
  have htracks : Tracks b.state s := hbefore.tracks h.tracks
  generalize ScanCursor.mk l.target.chain l.target.id window.last (l.now w) = cursor
    at hanswer hafter
  change answer = (MemoryStore.commit cursor applied.delta s).1 at hanswer
  change OthersWrite (MemoryStore.commit cursor applied.delta s).2 (stored w') at hafter
  obtain ⟨e, n, hcommit⟩ | ⟨-, hcommit⟩ | ⟨-, hcommit⟩ := s.commit_cases cursor applied.delta
  all_goals
    rw [hcommit] at hanswer hafter
    subst hanswer
  · have hwrites : OthersWrite s (stored w') := (OthersWrite.refl.fault n).trans hafter
    exact ⟨hwrites.stores hs, hwrites.tracks htracks⟩
  · obtain ⟨hstores, hnext⟩ := htracks.apply hs happly cursor
    have hwritten : Holding stored applied.state w' := ⟨hafter.stores hstores, hafter.tracks hnext⟩
    exact hwritten.later (hl.publishAll _ w')
  · have hkept : Holding stored b.state w' := ⟨hafter.stores hs, hafter.tracks htracks⟩
    have hreload := hl.reload_holding (b := { b with phase := .committing window }) hkept
    dsimp only
    generalize BlockScanner.reload l { b with phase := .committing window } w' = r at hreload ⊢
    obtain ⟨answer, b', w''⟩ := r
    cases answer <;> exact hreload

/-- A step keeps the holders of scanner and store together. -/
theorem step_holding {b : BlockScanner} (h : Holding stored b.state w) :
    Holding stored (BlockScanner.step l b w).2.1.state (BlockScanner.step l b w).2.2 := by
  have hheight := h.later (hl.touches .currentHeight)
  unfold BlockScanner.step
  dsimp only
  generalize l.target.currentHeight w = r at hheight ⊢
  obtain ⟨e | height, w₁⟩ := r
  · exact hheight
  · dsimp only
    cases Scan.nextWindow l.target.kind b.cursor height b.range with
    | none => exact hheight
    | some window =>
      have hread := hheight.later (hl.touches (.scan window b.state))
      have hscan (out : ScanOutput) (hout : (l.target.scan window b.state w₁).1 = .output out) :=
        hl.scan_output hout
      dsimp only
      generalize l.target.scan window b.state w₁ = r at hread hscan ⊢
      obtain ⟨out | e | _ | _, w₂⟩ := r
      · obtain ⟨a, events, applied, happly, rfl⟩ := hscan out rfl
        exact hl.commit_holding (b := { b with phase := .scanning window }) hread window happly
      all_goals exact hread

theorem pass_holding {b : BlockScanner} (h : Holding stored b.state w) :
    Holding stored (BlockScanner.pass l b w).2.1.state (BlockScanner.pass l b w).2.2 := by
  have hstep := hl.step_holding h
  unfold BlockScanner.pass
  generalize BlockScanner.step l b w = r at hstep ⊢
  obtain ⟨e | outcome, b', w'⟩ := r
  · have hpublished := hstep.later (hl.touches (.publish (.plain (BlockScanner.alertName l) 1.0)))
    dsimp only
    unfold BlockScanner.onError
    dsimp only
    split_ifs
    all_goals first | exact hstep | exact hpublished
  · exact hstep

theorem new_holding {b : BlockScanner} {w' : ω} (hs : StoresHolders (stored w))
    (hnew : BlockScanner.new l w = (.ok b, w')) : Holding stored b.state w' := by
  obtain ⟨hwrites, hreload⟩ := hl.reload_effect hs
    ⟨l.target.initialCursor, .empty l.target.chain, BlockScanner.fullRange l, 0, .idle⟩
  unfold BlockScanner.new at hnew
  dsimp only at hnew
  generalize BlockScanner.reload l _ w = r at hwrites hreload hnew
  obtain ⟨_ | _, b', w''⟩ := r
  · cases hnew
  · cases hnew
    refine ⟨hwrites.stores hs, ?_⟩
    obtain ⟨⟨e, he⟩, -⟩ | htracks := hreload
    · cases he
    · exact htracks

theorem new_stores (hs : StoresHolders (stored w)) :
    StoresHolders (stored (BlockScanner.new l w).2) := by
  obtain ⟨hwrites, -⟩ := hl.reload_effect hs
    ⟨l.target.initialCursor, .empty l.target.chain, BlockScanner.fullRange l, 0, .idle⟩
  unfold BlockScanner.new
  dsimp only
  generalize BlockScanner.reload l _ w = r at hwrites
  obtain ⟨_ | _, b', w'⟩ := r <;> exact hwrites.stores hs

end EventsLoop

/-- The worlds to which one scanner of events leads from an empty store, with other loops beside
it. It is dropped and started anew at will, also with another configuration. -/
inductive HolderRun (stored : ω → MemoryStore) : Option BlockScanner → ω → Prop
  | start {w : ω} (h : stored w = .empty) : HolderRun stored none w
  | others {b : Option BlockScanner} {w w' : ω} (h : HolderRun stored b w)
      (hwrites : OthersWrite (stored w) (stored w')) : HolderRun stored b w'
  | new {b : Option BlockScanner} {w : ω} (h : HolderRun stored b w) {l : ScanLoop ω}
      (hl : EventsLoop stored l) :
      HolderRun stored (BlockScanner.new l w).1.toOption (BlockScanner.new l w).2
  | pass {b : BlockScanner} {w : ω} (h : HolderRun stored (some b) w) {l : ScanLoop ω}
      (hl : EventsLoop stored l) :
      HolderRun stored (some (BlockScanner.pass l b w).2.1) (BlockScanner.pass l b w).2.2

namespace HolderRun

variable {stored : ω → MemoryStore} {b : Option BlockScanner} {w : ω}

theorem invariant (h : HolderRun stored b w) :
    StoresHolders (stored w) ∧ ∀ scanner ∈ b, Tracks scanner.state (stored w) := by
  induction h with
  | start hempty =>
    rw [hempty]
    exact ⟨storesHolders_empty, fun _ hb => by cases hb⟩
  | others _ hwrites ih =>
    exact ⟨hwrites.stores ih.1, fun scanner hb => hwrites.tracks (ih.2 scanner hb)⟩
  | @new b w _ l hl ih =>
    refine ⟨hl.new_stores ih.1, fun scanner hb => ?_⟩
    have hnew (scanner : BlockScanner) (w' : ω)
        (hstarted : BlockScanner.new l w = (.ok scanner, w')) := hl.new_holding ih.1 hstarted
    generalize BlockScanner.new l w = r at hb hnew
    obtain ⟨e | scanner, w'⟩ := r
    · cases hb
    · cases hb
      exact (hnew scanner w' rfl).tracks
  | pass _ hl ih =>
    have hpass := hl.pass_holding ⟨ih.1, ih.2 _ rfl⟩
    refine ⟨hpass.stores, fun scanner hb => ?_⟩
    cases hb
    exact hpass.tracks

end HolderRun

/-- A state that windows lead to from nothing, or that is stored while one scanner of events and
other loops write, has no balance of the zero address and none that is zero, and gives the number
of its balances. -/
theorem holders_counted {stored : ω → MemoryStore} {s : AggregateState}
    (h : (∃ chain, EventAggregator.Built chain s) ∨
      ∃ b w, HolderRun stored b w ∧ (stored w).aggregates.get .parachain = some s) :
    s.holderBalances.get? .zero = none ∧
      (∀ holder balance, s.holderBalances.get? holder = some balance → balance ≠ .zero) ∧
      s.holdersNumber = .ofNat s.holderBalances.size ∧
      (s.holderBalances.size < UInt64.size →
        s.holdersNumber.toNat = s.holderBalances.size) := by
  have hcounted : s.HoldersCounted := by
    obtain ⟨chain, hbuilt⟩ | ⟨b, w, hrun, hstored⟩ := h
    · exact hbuilt.holdersCounted
    · have hs : (stored w).aggregate .parachain = s := by
        rw [MemoryStore.aggregate, hstored, Option.getD_some]
      exact hs ▸ hrun.invariant.1.counted
  exact ⟨hcounted.holdersOnly.zeroAddress, hcounted.holdersOnly.positive, hcounted.counted,
    hcounted.toNat_holdersNumber⟩

namespace LocalIndexer

theorem eventsLoop_alone (a : EventAggregator) (config : ScannerConfig) (initialBlock : UInt64) :
    EventsLoop (·.store) (eventsLoop a .parachain config initialBlock) where
  target := ⟨a, link, height, logs, initialBlock, rfl⟩
  loadCursor w := ⟨w.store, .refl, rfl, .refl⟩
  loadState w := ⟨w.store, .refl, rfl, .refl⟩
  commit c d w := ⟨w.store, .refl, rfl, .refl⟩
  touches h := by
    rw [store_of_touches rfl rfl h]
    exact .refl

abbrev transfer : EventPayload := .transfer (.ofNat 2) (.ofNat 3) (.ofUInt64 5)

abbrev transferWorld : EventsWorld LocalIndexer [⟨1, 0, transfer⟩] :=
  eventsWorld (.ofConstants .standard 1) .parachain 1 [⟨1, 0, transfer⟩]

/-- The window of the transfer as a scanner folds it that has just been started. -/
abbrev transferWindow : AppliedWindow :=
  EventAggregator.window (.ofConstants .standard 1) freshScanner.state [⟨1, 0, transfer⟩] []

theorem apply_transfer : EventAggregator.apply (.ofConstants .standard 1) freshScanner.state
    [⟨1, 0, transfer⟩] [] = .ok transferWindow := by
  refine EventAggregator.apply_of_checkWindow _ [] ?_
  rw [EventAggregator.checkWindow, Event.ordered_eq_self (List.pairwise_singleton _ _)]
  rfl

theorem holdersNumber_transferWindow (s : AggregateState) :
    (s.applyDelta transferWindow.delta).holdersNumber = 1 := by
  change transferWindow.delta.holdersNumber.getD _ = 1
  rw [transferWindow, EventAggregator.window,
    Event.ordered_eq_self (List.pairwise_singleton _ _)]
  rfl

theorem pass_transfer {s : MemoryStore} (hfaults : s.failingCommits = 0)
    (hposition : s.position .parachain 1 < 1) :
    (BlockScanner.pass (transferWorld.loop tenBlocks) freshScanner
        (answering transfer 1 s)).2.2.store.aggregates.get .parachain
      = some ((s.aggregate .parachain).applyDelta transferWindow.delta) := by
  have hstep : (BlockScanner.step (transferWorld.loop tenBlocks) freshScanner
      (answering transfer 1 s)).1 = .ok (.committed ⟨1, 1⟩) :=
    committed_answering (.inl rfl) rfl rfl apply_transfer hfaults hposition
  have hholds : transferWorld.Holds s (answering transfer 1 s) := ⟨rfl, rfl⟩
  obtain ⟨s', hs', heffect⟩ := EventsWorld.step_effect tenBlocks hholds freshScanner
  unfold BlockScanner.pass
  generalize BlockScanner.step (transferWorld.loop tenBlocks) freshScanner _ = r
    at hstep hs' heffect ⊢
  obtain ⟨outcome, b, w⟩ := r
  obtain rfl : outcome = .ok (.committed ⟨1, 1⟩) := hstep
  obtain ⟨-, rfl⟩ := hs'
  generalize hstored : transferWorld.stored w = stored at heffect
  cases heffect with
  | kept faults houtcome => exact absurd rfl (houtcome ⟨1, 1⟩)
  | committed now hlast hanswer happly =>
    have hfolded := List.perm_singleton.1 hanswer
    subst hfolded
    obtain rfl := Except.ok.inj (apply_transfer.symm.trans happly)
    change (transferWorld.stored w).aggregates.get .parachain = _
    have hchain : transferWindow.delta.chain = .parachain :=
      (EventAggregator.chain_of_apply apply_transfer).2
    rw [hstored, MemoryStore.aggregates_apply, if_pos hchain.symm]

end LocalIndexer

open LocalIndexer in
/-- A scanner that is started and folds a transfer, in front of which another loop has written. -/
theorem holders_counted_transfer :
    ∃ b w s, HolderRun (·.store) b w ∧
      (w : LocalIndexer).store.aggregates.get .parachain = some s ∧ s.holdersNumber = 1 ∧
        s.holderBalances.get? .zero = none ∧
        (∀ holder balance, s.holderBalances.get? holder = some balance → balance ≠ .zero) ∧
        s.holdersNumber = .ofNat s.holderBalances.size ∧
        (s.holderBalances.size < UInt64.size →
          s.holdersNumber.toNat = s.holderBalances.size) := by
  have hloop := eventsLoop_alone (.ofConstants .standard 1) tenBlocks 1
  have hstart : HolderRun (·.store) none (answering transfer 1 .empty) := .start rfl
  have hnew : HolderRun (·.store) (some freshScanner) (answering transfer 1 .empty) :=
    hstart.new hloop
  have hother : HolderRun (·.store) (some freshScanner)
      (answering transfer 1 (LoopCommit.step .empty LoopCommit.snapshot)) :=
    hnew.others (.commit .refl LoopCommit.snapshot (by decide))
  have hstored := pass_transfer (s := LoopCommit.step .empty LoopCommit.snapshot) rfl (by decide)
  exact ⟨_, _, _, hother.pass hloop, hstored, holdersNumber_transferWindow _,
    holders_counted (.inr ⟨_, _, hother.pass hloop, hstored⟩)⟩

end StakingIndexer
