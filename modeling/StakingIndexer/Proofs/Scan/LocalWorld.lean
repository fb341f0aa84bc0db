import Mathlib
import StakingIndexer.Proofs.Aggregate.Window
import StakingIndexer.Proofs.Scan.EventsWorld
import StakingIndexer.Proofs.Scan.SharedCursor
import StakingIndexer.Scan.LocalIndexer

/-!
# A chain in memory as a world

Whatever faults the chain in memory shows, it answers with whole windows of its events, so
that loops over it are loops over any chain.
-/

namespace StakingIndexer

namespace LocalChain

variable {events : List Event}

theorem connect_meets (e : Endpoint) :
    (connect e).Meets (fun c => c.events = events) fun _ => True := by
  intro c hc
  unfold connect
  split_ifs <;> exact ⟨hc, fun _ _ => trivial⟩

theorem checkCall_meets : checkCall.Meets (fun c => c.events = events) fun _ => True := by
  intro c hc
  unfold checkCall
  split_ifs <;> exact ⟨hc, fun _ _ => trivial⟩

theorem currentHeight_meets :
    currentHeight.Meets (fun c => c.events = events) fun _ => True :=
  checkCall_meets.bind fun _ _ _ hc => ⟨hc, fun _ _ => trivial⟩

/-- An answer of the chain is whole: where it would be too large there is none. -/
theorem logs_meets (window : BlockWindow) :
    (logs window).Meets (fun c => c.events = events)
      fun answer => answer.Perm (Event.within window events) := by
  refine checkCall_meets.bind fun _ _ => ?_
  have hnote : ∀ c : LocalChain, c.events = events →
      { c with requests := c.requests ++ [window] }.events = events := fun _ hc => hc
  refine (Action.meets_modify hnote).bind fun _ _ => ?_
  refine Action.meets_get.bind fun c hc => ?_
  have hanswer : (c.eventsIn window).Perm (Event.within window events) := by
    rw [← hc]
    exact .refl _
  dsimp only
  split
  · split_ifs
    · exact Action.meets_throw _
    · exact Action.meets_pure hanswer
  · exact Action.meets_pure hanswer

end LocalChain

namespace LocalIndexer

variable {events : List Event}

theorem onChain_meets {ε α : Type} {P : α → Prop} {a : Action LocalChain ε α}
    (h : a.Meets (fun c => c.events = events) P) (s : MemoryStore) :
    (onChain a).Meets (fun w => w.chain.events = events ∧ w.store = s) P := by
  intro w hw
  obtain ⟨hkept, hanswer⟩ := h w.chain hw.1
  exact ⟨⟨hkept, hw.2⟩, hanswer⟩

def eventsWorld (a : EventAggregator) (chain : Chain) (initialBlock : UInt64)
    (events : List Event) : EventsWorld LocalIndexer events where
  aggregator := a
  chain
  initialBlock
  link
  height
  logs
  publish
  now _ := 0
  stored := (·.store)
  setStored store w := { w with store }
  serves w := w.chain.events = events
  stored_setStored _ _ := rfl
  serves_setStored _ _ h := h
  connect_meets s e := onChain_meets (LocalChain.connect_meets e) s
  height_meets s _ := onChain_meets LocalChain.currentHeight_meets s
  logs_meets s window _ := onChain_meets (LocalChain.logs_meets window) s
  keeps_setReader _ _ h := ⟨h, rfl⟩
  keeps_publish _ _ h := ⟨h, rfl⟩

theorem loop_eventsWorld (a : EventAggregator) (chain : Chain) (initialBlock : UInt64)
    (events : List Event) (config : ScannerConfig) :
    (eventsWorld a chain initialBlock events).loop config
      = eventsLoop a chain config initialBlock := rfl

/-- Other than through its store, a loop over the events leaves the store as it is. -/
theorem store_of_touches {l : ScanLoop LocalIndexer} {a : EventAggregator} {chain : Chain}
    {initialBlock : UInt64}
    (htarget : l.target = EventsTarget.target a chain link checkpoints height logs initialBlock)
    (hpublish : l.publish = publish) {w w' : LocalIndexer} (h : l.Touches w w') :
    w'.store = w.store := by
  have hholds : (eventsWorld a chain initialBlock w.chain.events).Holds w.store w := ⟨rfl, rfl⟩
  cases h with
  | currentHeight =>
    rw [htarget]
    exact (EventsWorld.currentHeight_meets l.config w.store w hholds).1.2
  | hydrate state =>
    rw [htarget]
    rfl
  | scan window state =>
    rw [htarget]
    exact (EventsWorld.scan_effect l.config hholds window state).1.2
  | publish g =>
    rw [hpublish]
    rfl

/-- A chain with one event, in its first block, behind an endpoint that answers. -/
def answering (payload : EventPayload) (height : UInt64) (store : MemoryStore) :
    LocalIndexer where
  chain := { LocalChain.empty [] with height, events := [⟨1, 0, payload⟩] }
  reader := .new ⟨.parachain, 60000, [⟨"ws://a", .healthy⟩], 0, by decide, none⟩ ⟨5000, none, 10⟩
  clock := 0
  store
  publisher := .new ""

def tenBlocks : ScannerConfig := ⟨10, 0, 0, 0⟩

variable {a : EventAggregator} {payload : EventPayload} {s : MemoryStore}

theorem currentHeight_answering (height : UInt64) :
    (((eventsWorld a .parachain 1 [⟨1, 0, payload⟩]).loop tenBlocks).target.currentHeight
      (answering payload height s)).1 = .ok height := rfl

theorem fetchEvents_answering {height : UInt64} (h : height = 1 ∨ height = 2) :
    ((eventsWorld a .parachain 1 [⟨1, 0, payload⟩]).link.fetchEvents
      (eventsWorld a .parachain 1 [⟨1, 0, payload⟩]).logs ⟨1, height⟩
      (((eventsWorld a .parachain 1 [⟨1, 0, payload⟩]).loop tenBlocks).target.currentHeight
        (answering payload height s)).2).1 = .ok [⟨1, 0, payload⟩] := by
  rcases h with rfl | rfl <;> cbv

theorem committed_answering {b : BlockScanner} {height : UInt64} {applied : AppliedWindow}
    (h : height = 1 ∨ height = 2) (hcursor : b.cursor = 0) (hrange : b.range = 10)
    (happly : a.apply b.state [⟨1, 0, payload⟩] [] = .ok applied)
    (hfaults : s.failingCommits = 0) (hposition : s.position .parachain 1 < height) :
    (BlockScanner.step ((eventsWorld a .parachain 1 [⟨1, 0, payload⟩]).loop tenBlocks) b
      (answering payload height s)).1 = .ok (.committed ⟨1, height⟩) := by
  refine EventsWorld.step_committed tenBlocks ⟨rfl, rfl⟩ (currentHeight_answering height) ?_
    (fetchEvents_answering h) happly hfaults hposition
  rw [hcursor, hrange]
  rcases h with rfl | rfl <;> decide

abbrev depositWorld : EventsWorld LocalIndexer [⟨1, 0, .deposited (.ofNat 2) (.ofUInt64 5)⟩] :=
  eventsWorld (.ofConstants .standard 1) .parachain 1 [⟨1, 0, .deposited (.ofNat 2) (.ofUInt64 5)⟩]

abbrev depositChain (height : UInt64) (store : MemoryStore) : LocalIndexer :=
  answering (.deposited (.ofNat 2) (.ofUInt64 5)) height store

def freshScanner : BlockScanner :=
  ⟨MemoryStore.empty.position .parachain 1, depositWorld.restored .empty,
    BlockScanner.fullRange (depositWorld.loop tenBlocks), 0, .idle⟩

theorem freshScanner_committed {height : UInt64} (h : height = 1 ∨ height = 2)
    (hfaults : s.failingCommits = 0) (hposition : s.position .parachain 1 < height) :
    (BlockScanner.step (depositWorld.loop tenBlocks) freshScanner (depositChain height s)).1
      = .ok (.committed ⟨1, height⟩) := by
  have hcheck : EventAggregator.checkWindow freshScanner.state
      [⟨1, 0, .deposited (.ofNat 2) (.ofUInt64 5)⟩] = .ok () := by
    rw [EventAggregator.checkWindow, Event.ordered_eq_self (List.pairwise_singleton _ _)]
    rfl
  exact committed_answering h rfl rfl (EventAggregator.apply_of_checkWindow _ [] hcheck) hfaults
    hposition

end LocalIndexer
end StakingIndexer
