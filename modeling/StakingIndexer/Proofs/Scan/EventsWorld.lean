import Mathlib
import StakingIndexer.Proofs.Reader.Answers
import StakingIndexer.Proofs.Store.Memory
import StakingIndexer.Scan.EventsTarget

/-!
# Steps of a loop over events

A loop over the events of a chain meets the nodes of the chain and a store in memory. Nodes
may fail in any way, but where they answer with events these are the events of the chain. A
step then leaves cursor, state and store as they are, takes cursor and state from the store,
or stores one window more.
-/

namespace StakingIndexer

namespace EventsTarget

theorem toNat_initialCursor (initialBlock : UInt64) :
    (initialCursor initialBlock).toNat = initialBlock.toNat - 1 := Word.toNat_satSub _ _

theorem initialCursor_lt (initialBlock : UInt64) :
    initialCursor initialBlock < max initialBlock 1 := by
  rw [UInt64.lt_iff_toNat_lt, toNat_initialCursor, Word.toNat_max, UInt64.toNat_one]
  omega

/-- Behind a cursor that is not before the first one, no block is left out. -/
theorem first_le_succ {initialBlock cursor last : UInt64}
    (h : initialCursor initialBlock ≤ cursor) (hlast : cursor < last) :
    max initialBlock 1 ≤ cursor + 1 := by
  rw [UInt64.le_iff_toNat_le, toNat_initialCursor] at h
  rw [UInt64.le_iff_toNat_le, Word.toNat_max, Word.toNat_succ hlast, UInt64.toNat_one]
  omega

end EventsTarget

namespace MemoryStore

/-- The block behind which events are read next. -/
def position (s : MemoryStore) (chain : Chain) (initialBlock : UInt64) : UInt64 :=
  match s.cursor chain .events with
  | some stored => stored.block
  | none => EventsTarget.initialCursor initialBlock

theorem position_empty (chain : Chain) (initialBlock : UInt64) :
    empty.position chain initialBlock = EventsTarget.initialCursor initialBlock := by
  simp [position, cursor, empty]

theorem position_apply (s : MemoryStore) (chain : Chain) (last : UInt64) (now : Int)
    (delta : AggregateDelta) (initialBlock : UInt64) :
    (s.apply ⟨chain, .events, last, now⟩ delta).position chain initialBlock = last := by
  simp [position, cursor, apply]

end MemoryStore

/-- What loops over the events of a chain share: the nodes, a registry of gauges, a clock
and a store in memory. Nodes that answer with events answer with those of the window. -/
structure EventsWorld (ω : Type) (events : List Event) where
  aggregator : EventAggregator
  chain : Chain
  initialBlock : UInt64
  link : Link ω
  height : Endpoint → Action ω Interruption UInt64
  logs : Link.LogCall ω
  publish : Gauge → ω → ω
  now : ω → Int
  stored : ω → MemoryStore
  setStored : MemoryStore → ω → ω
  serves : ω → Prop
  stored_setStored : ∀ s w, stored (setStored s w) = s
  serves_setStored : ∀ s w, serves w → serves (setStored s w)
  connect_meets : ∀ s e, (link.connect e).Meets (fun w => serves w ∧ stored w = s) fun _ => True
  height_meets : ∀ s e, (height e).Meets (fun w => serves w ∧ stored w = s) fun _ => True
  logs_meets : ∀ s, Link.Faithful (fun w => serves w ∧ stored w = s) logs events
  keeps_setReader : ∀ r w, serves w →
    serves (link.setReader r w) ∧ stored (link.setReader r w) = stored w
  keeps_publish : ∀ g w, serves w → serves (publish g w) ∧ stored (publish g w) = stored w

/-- What a step of a scanner at a cursor does to its cursor, its state and the store:
nothing but to the faults still to come, or it takes over the position of another writer
that was ahead, or it stores the window behind the cursor. -/
inductive StepEffect (a : EventAggregator) (chain : Chain) (events : List Event)
    (cursor : UInt64) (state : AggregateState) (s : MemoryStore) :
    Except ScanError StepOutcome → BlockScanner → MemoryStore → Prop
  | kept {outcome : Except ScanError StepOutcome} {b : BlockScanner} (faults : Nat)
      (houtcome : ∀ window, outcome ≠ .ok (.committed window)) (hcursor : b.cursor = cursor)
      (hstate : b.state = state) :
      StepEffect a chain events cursor state s outcome b (s.failNextCommits faults)
  | reloaded {window : BlockWindow} {b : BlockScanner} {stored : ScanCursor}
      (rows : List RewardRow) (hstored : s.cursor chain .events = some stored)
      (hcursor : b.cursor = stored.block)
      (hstate : b.state = (s.aggregate chain).withHistory rows) :
      StepEffect a chain events cursor state s (.ok (.alreadyApplied window)) b s
  | committed {b : BlockScanner} {last : UInt64} {answer : List Event}
      {applied : AppliedWindow} (now : Int) (hlast : cursor < last)
      (hanswer : answer.Perm (Event.within ⟨cursor + 1, last⟩ events))
      (happly : a.apply state answer [] = .ok applied)
      (hnew : s.isNew ⟨chain, .events, last, now⟩) (hcursor : b.cursor = last)
      (hstate : b.state = applied.state) :
      StepEffect a chain events cursor state s (.ok (.committed ⟨cursor + 1, last⟩)) b
        (s.apply ⟨chain, .events, last, now⟩ applied.delta)

theorem Scan.nextWindow_ranged {cursor height range : UInt64} {window : BlockWindow}
    (h : nextWindow .ranged cursor height range = some window) :
    cursor < window.last ∧ window = ⟨cursor + 1, window.last⟩ := by
  unfold nextWindow at h
  split_ifs at h with hheight
  cases h
  refine ⟨?_, rfl⟩
  have hheight := UInt64.lt_iff_toNat_lt.1 (UInt64.not_le.1 hheight)
  have hrange : 1 ≤ (max range 1).toNat := by
    rw [Word.toNat_max]
    exact Nat.le_max_right _ _
  have hle := height.toNat_lt
  rw [UInt64.lt_iff_toNat_lt, Word.toNat_min, Word.toNat_satAdd, UInt64.size]
  omega

namespace EventsWorld

variable {ω : Type} {events : List Event} (x : EventsWorld ω events)

def Holds (s : MemoryStore) (w : ω) : Prop := x.serves w ∧ x.stored w = s

def checkpoints : CheckpointStore ω := MemoryStore.store.onPart x.stored x.setStored

def loop (config : ScannerConfig) : ScanLoop ω where
  target := EventsTarget.target x.aggregator x.chain x.link x.checkpoints x.height x.logs
    x.initialBlock
  store := x.checkpoints
  publish := x.publish
  now := x.now
  config

def position (s : MemoryStore) : UInt64 := s.position x.chain x.initialBlock

/-- The events from the first block up to another one. -/
def upTo (block : UInt64) : List Event :=
  Event.within ⟨max x.initialBlock 1, block⟩ events

theorem position_empty : x.position .empty = EventsTarget.initialCursor x.initialBlock :=
  MemoryStore.position_empty _ _

theorem position_apply (s : MemoryStore) (last : UInt64) (now : Int) (delta : AggregateDelta) :
    x.position (s.apply ⟨x.chain, .events, last, now⟩ delta) = last :=
  MemoryStore.position_apply s x.chain last now delta x.initialBlock

theorem upTo_initialCursor : x.upTo (EventsTarget.initialCursor x.initialBlock) = [] :=
  Event.within_of_lt (EventsTarget.initialCursor_lt _) events

variable {x} {s : MemoryStore} {w : ω}

theorem holds_setStored (h : x.Holds s w) (t : MemoryStore) : x.Holds t (x.setStored t w) :=
  ⟨x.serves_setStored t w h.1, x.stored_setStored t w⟩

theorem holds_publish (h : x.Holds s w) (g : Gauge) : x.Holds s (x.publish g w) := by
  obtain ⟨hserves, hstored⟩ := x.keeps_publish g w h.1
  exact ⟨hserves, hstored.trans h.2⟩

theorem holds_setReader (r : ChainReader) (w : ω) (h : x.Holds s w) :
    x.Holds s (x.link.setReader r w) := by
  obtain ⟨hserves, hstored⟩ := x.keeps_setReader r w h.1
  exact ⟨hserves, hstored.trans h.2⟩

theorem holds_publishAll (config : ScannerConfig) (h : x.Holds s w) (gauges : List Gauge) :
    x.Holds s (BlockScanner.publishAll (x.loop config) gauges w) := by
  unfold BlockScanner.publishAll
  induction gauges generalizing w with
  | nil => exact h
  | cons g gauges ih => exact ih (holds_publish h g)

theorem currentHeight_meets (config : ScannerConfig) (s : MemoryStore) :
    (x.loop config).target.currentHeight.Meets (x.Holds s) fun _ => True :=
  (Link.run_meets (x.connect_meets s) holds_setReader (x.height_meets s) _).mapError _

theorem fetchEvents_meets (s : MemoryStore) (window : BlockWindow) :
    (x.link.fetchEvents x.logs window).Meets (x.Holds s)
      fun answer => answer.Perm (Event.within window events) :=
  Link.fetchEvents_meets (x.connect_meets s) holds_setReader (x.logs_meets s) window

/-- Scanning fails, or folds the events of the window. -/
theorem scan_effect (config : ScannerConfig) (h : x.Holds s w) (window : BlockWindow)
    (state : AggregateState) :
    x.Holds s ((x.loop config).target.scan window state w).2 ∧
      ((∃ e, ((x.loop config).target.scan window state w).1 = .failed e) ∨
        ∃ answer applied, answer.Perm (Event.within window events) ∧
          x.aggregator.apply state answer [] = .ok applied ∧
            ((x.loop config).target.scan window state w).1
              = .output ⟨applied.state, applied.delta, []⟩) := by
  obtain ⟨hread, hanswer⟩ := fetchEvents_meets s window w h
  change x.Holds s (EventsTarget.scan x.aggregator x.link x.logs window state w).2 ∧
    ((∃ e, (EventsTarget.scan x.aggregator x.link x.logs window state w).1 = .failed e) ∨
      ∃ answer applied, _ ∧ _ ∧
        (EventsTarget.scan x.aggregator x.link x.logs window state w).1 = _)
  unfold EventsTarget.scan
  generalize x.link.fetchEvents x.logs window w = r at hread hanswer ⊢
  obtain ⟨e | answer, w'⟩ := r
  · exact ⟨hread, .inl ⟨_, rfl⟩⟩
  · dsimp only
    cases happly : x.aggregator.apply state answer [] with
    | error e => exact ⟨hread, .inl ⟨_, rfl⟩⟩
    | ok applied => exact ⟨hread, .inr ⟨answer, applied, hanswer answer rfl, happly, rfl⟩⟩

theorem loadCursor_eq (config : ScannerConfig) (h : x.Holds s w) :
    (x.loop config).store.loadCursor (x.loop config).target.chain (x.loop config).target.id w
      = (.ok (s.cursor x.chain .events), x.setStored s w) := by
  obtain ⟨-, rfl⟩ := h
  rfl

theorem storedState_eq (config : ScannerConfig) (h : x.Holds s w) :
    ((x.loop config).store.loadState (x.loop config).target.chain).mapError ScanError.store w
      = (.ok (s.aggregates.get x.chain), x.setStored s w) := by
  obtain ⟨-, rfl⟩ := h
  rfl

theorem recentRewards_eq (h : x.Holds s w) (limit : Nat) :
    (x.checkpoints.recentRewards limit).mapError ScanError.store w
      = (.ok (s.recentRewards limit), x.setStored s w) := by
  obtain ⟨-, rfl⟩ := h
  rfl

variable (x) in
/-- The stored state with the history that is completed from the stored reports. -/
def restored (s : MemoryStore) : AggregateState :=
  (s.aggregate x.chain).withHistory (s.recentRewards x.aggregator.historyLimit)

theorem loadState_eq (config : ScannerConfig) (h : x.Holds s w) :
    ∃ w', x.Holds s w' ∧
      BlockScanner.loadState (x.loop config) w = (.ok (x.restored s), w') := by
  have hread := holds_setStored h s
  refine ⟨_, holds_setStored hread s, ?_⟩
  unfold BlockScanner.loadState
  rw [Action.bind_eq, storedState_eq config h]
  change EventsTarget.hydrate x.aggregator x.checkpoints (s.aggregate x.chain)
    (x.setStored s w) = _
  unfold EventsTarget.hydrate
  rw [Action.bind_eq, recentRewards_eq hread]
  rfl

theorem reload_eq (config : ScannerConfig) (h : x.Holds s w) (b : BlockScanner) :
    ∃ w', x.Holds s w' ∧
      BlockScanner.reload (x.loop config) b w
        = (.ok (), { b with
            cursor := ((s.cursor x.chain .events).map (·.block)).getD b.cursor
            state := x.restored s }, w') := by
  obtain ⟨w', hw', hload⟩ := loadState_eq config (holds_setStored h s)
  refine ⟨w', hw', ?_⟩
  unfold BlockScanner.reload
  rw [loadCursor_eq config h]
  dsimp only
  rw [hload]
  cases s.cursor x.chain .events <;> rfl

theorem new_eq (config : ScannerConfig) (h : x.Holds s w) :
    ∃ w', x.Holds s w' ∧
      BlockScanner.new (x.loop config) w
        = (.ok ⟨s.position x.chain x.initialBlock, x.restored s,
            BlockScanner.fullRange (x.loop config), 0, .idle⟩, w') := by
  obtain ⟨w', hw', hreload⟩ := reload_eq config h
    ⟨(x.loop config).target.initialCursor, .empty (x.loop config).target.chain,
      BlockScanner.fullRange (x.loop config), 0, .idle⟩
  refine ⟨w', hw', ?_⟩
  unfold BlockScanner.new
  dsimp only
  rw [hreload]
  unfold MemoryStore.position
  cases s.cursor x.chain .events <;> rfl

variable {b : BlockScanner}

theorem kept_self {a : EventAggregator} {chain : Chain}
    {outcome : Except ScanError StepOutcome} {b' : BlockScanner}
    (houtcome : ∀ window, outcome ≠ .ok (.committed window)) (hcursor : b'.cursor = b.cursor)
    (hstate : b'.state = b.state) :
    StepEffect a chain events b.cursor b.state s outcome b' s :=
  .kept s.failingCommits houtcome hcursor hstate

theorem storeCommit_eq (config : ScannerConfig) (h : x.Holds s w) (last : UInt64)
    (delta : AggregateDelta) :
    (x.loop config).store.commit
        ⟨(x.loop config).target.chain, (x.loop config).target.id, last, (x.loop config).now w⟩
        delta w
      = ((MemoryStore.commit ⟨x.chain, .events, last, x.now w⟩ delta s).1,
        x.setStored (MemoryStore.commit ⟨x.chain, .events, last, x.now w⟩ delta s).2 w) := by
  obtain ⟨-, rfl⟩ := h
  rfl

theorem commit_effect (config : ScannerConfig) (h : x.Holds s w) {last : UInt64}
    {answer : List Event} {applied : AppliedWindow} (hlast : b.cursor < last)
    (hanswer : answer.Perm (Event.within ⟨b.cursor + 1, last⟩ events))
    (happly : x.aggregator.apply b.state answer [] = .ok applied) :
    ∃ s', x.Holds s' (BlockScanner.commit (x.loop config) ⟨b.cursor + 1, last⟩
        ⟨applied.state, applied.delta, []⟩ b w).2.2 ∧
      StepEffect x.aggregator x.chain events b.cursor b.state s
        (BlockScanner.commit (x.loop config) ⟨b.cursor + 1, last⟩
          ⟨applied.state, applied.delta, []⟩ b w).1
        (BlockScanner.commit (x.loop config) ⟨b.cursor + 1, last⟩
          ⟨applied.state, applied.delta, []⟩ b w).2.1 s' := by
  unfold BlockScanner.commit
  dsimp only
  rw [storeCommit_eq config h]
  unfold MemoryStore.commit
  split_ifs with hfailing hnew
  · exact ⟨_, holds_setStored h _, .kept _ (fun _ hw => by cases hw) rfl rfl⟩
  · refine ⟨_, holds_publishAll config (holds_setStored h _) _, ?_⟩
    exact .committed (x.now w) hlast hanswer happly hnew rfl rfl
  · -- the stored cursor is at the end of the window or beyond it
    obtain ⟨stored, hstored⟩ : ∃ stored, s.cursor x.chain .events = some stored := by
      rw [MemoryStore.isNew_iff] at hnew
      push Not at hnew
      obtain ⟨stored, hstored, -⟩ := hnew
      exact ⟨stored, hstored⟩
    obtain ⟨w', hw', hreload⟩ := reload_eq config (holds_setStored h s)
      { b with phase := .committing ⟨b.cursor + 1, last⟩ }
    dsimp only
    rw [hreload]
    exact ⟨s, hw', .reloaded _ hstored (by rw [hstored]; rfl) rfl⟩

/-- Every step does one of three things, whatever the nodes and the store do. -/
theorem step_effect (config : ScannerConfig) (h : x.Holds s w) (b : BlockScanner) :
    ∃ s', x.Holds s' (BlockScanner.step (x.loop config) b w).2.2 ∧
      StepEffect x.aggregator x.chain events b.cursor b.state s
        (BlockScanner.step (x.loop config) b w).1
        (BlockScanner.step (x.loop config) b w).2.1 s' := by
  have hheight := (currentHeight_meets config s w h).1
  unfold BlockScanner.step
  dsimp only
  generalize (x.loop config).target.currentHeight w = r at hheight ⊢
  obtain ⟨e | height, w₁⟩ := r
  · exact ⟨s, hheight, kept_self (fun _ hw => by cases hw) rfl rfl⟩
  · dsimp only
    cases hnext : Scan.nextWindow (x.loop config).target.kind b.cursor height b.range with
    | none => exact ⟨s, hheight, kept_self (fun _ hw => by cases hw) rfl rfl⟩
    | some window =>
      obtain ⟨hlast, hwindow⟩ := Scan.nextWindow_ranged hnext
      obtain ⟨hread, hscan⟩ := scan_effect config hheight window b.state
      dsimp only
      generalize (x.loop config).target.scan window b.state w₁ = r at hread hscan ⊢
      obtain ⟨result, w₂⟩ := r
      obtain ⟨e, rfl⟩ | ⟨answer, applied, hanswer, happly, rfl⟩ := hscan
      · exact ⟨s, hread, kept_self (fun _ hw => by cases hw) rfl rfl⟩
      · rw [hwindow] at hanswer ⊢
        exact commit_effect config (b := { b with phase := .scanning _ }) hread hlast hanswer
          happly

/-- A step commits its window if the nodes answer, the events can be folded and the store
accepts the window. -/
theorem step_committed (config : ScannerConfig) (h : x.Holds s w) {height : UInt64}
    {window : BlockWindow} {answer : List Event} {applied : AppliedWindow}
    (hheight : ((x.loop config).target.currentHeight w).1 = .ok height)
    (hnext : Scan.nextWindow .ranged b.cursor height b.range = some window)
    (hanswer : (x.link.fetchEvents x.logs window
      ((x.loop config).target.currentHeight w).2).1 = .ok answer)
    (happly : x.aggregator.apply b.state answer [] = .ok applied)
    (hfaults : s.failingCommits = 0) (hposition : x.position s < window.last) :
    (BlockScanner.step (x.loop config) b w).1 = .ok (.committed window) := by
  have hholds := (currentHeight_meets config s w h).1
  unfold BlockScanner.step
  dsimp only
  generalize (x.loop config).target.currentHeight w = r at hheight hanswer hholds ⊢
  obtain ⟨outcome, w₁⟩ := r
  dsimp only at hheight hanswer hholds
  subst hheight
  dsimp only
  have hread := (fetchEvents_meets s window w₁ hholds).1
  have hscan : (x.loop config).target.scan window b.state w₁
      = (.output ⟨applied.state, applied.delta, []⟩, (x.link.fetchEvents x.logs window w₁).2) := by
    change EventsTarget.scan x.aggregator x.link x.logs window b.state w₁ = _
    unfold EventsTarget.scan
    generalize x.link.fetchEvents x.logs window w₁ = r at hanswer ⊢
    obtain ⟨outcome, w₂⟩ := r
    dsimp only at hanswer
    subst hanswer
    dsimp only
    rw [happly]
  have hkind : (x.loop config).target.kind = .ranged := rfl
  rw [hkind, hnext]
  dsimp only
  rw [hscan]
  dsimp only
  have hnew : s.isNew ⟨x.chain, .events, window.last,
      x.now (x.link.fetchEvents x.logs window w₁).2⟩ := by
    rw [MemoryStore.isNew_iff]
    intro stored hstored
    rwa [position, MemoryStore.position, hstored] at hposition
  unfold BlockScanner.commit
  dsimp only
  rw [storeCommit_eq config hread]
  unfold MemoryStore.commit
  rw [if_neg (by simp [hfaults]), if_pos hnew]

theorem position_of_committed (config : ScannerConfig) (h : x.Holds s w) {window : BlockWindow}
    (hstep : (BlockScanner.step (x.loop config) b w).1 = .ok (.committed window)) :
    ∃ s', x.Holds s' (BlockScanner.step (x.loop config) b w).2.2 ∧
      x.position s' = window.last ∧ s'.failingCommits = s.failingCommits := by
  obtain ⟨s', hw', heffect⟩ := step_effect config h b
  generalize BlockScanner.step (x.loop config) b w = r at hstep hw' heffect ⊢
  obtain ⟨outcome, b', w'⟩ := r
  dsimp only at hstep hw' heffect ⊢
  subst hstep
  refine ⟨s', hw', ?_⟩
  cases heffect with
  | kept faults houtcome => exact absurd rfl (houtcome window)
  | committed now => exact ⟨x.position_apply _ _ _ _, rfl⟩

theorem onError_effect (config : ScannerConfig) (h : x.Holds s w) (e : ScanError)
    (b : BlockScanner) :
    x.Holds s (BlockScanner.onError (x.loop config) e b w).2.2 ∧
      (BlockScanner.onError (x.loop config) e b w).2.1.cursor = b.cursor ∧
      (BlockScanner.onError (x.loop config) e b w).2.1.state = b.state := by
  unfold BlockScanner.onError
  dsimp only
  split_ifs
  all_goals exact ⟨by first | exact h | exact holds_publish h _, rfl, rfl⟩

end EventsWorld

end StakingIndexer
