import Mathlib
import StakingIndexer.Proofs.Aggregate.Partition
import StakingIndexer.Scan.EventsTarget
import StakingIndexer.Scan.ParachainStateTarget
import StakingIndexer.Scan.RelayStateTarget
import StakingIndexer.Scan.ValidatorsInfoTarget

/-!
# What loops send to a store

Each target makes changes of one kind. Two loops share the state of a chain and write other
fields of it, so that their changes can be applied in either order.
-/

namespace StakingIndexer

open EventAggregator

def TargetId.chain : TargetId → Chain
  | events | parachainState => .parachain
  | relayState | validatorsInfo => .relayChain

theorem TargetId.eq_of_chain_eq {t u v : TargetId} (hne : u ≠ v) (huv : u.chain = v.chain)
    (htu : t.chain = u.chain) (htv : t ≠ v) : t = u := by
  revert hne huv htu htv
  cases t <;> cases u <;> cases v <;> decide

/-- The changes that the loop of a target makes, from any state of its chain. -/
inductive LoopDelta : TargetId → AggregateDelta → Prop
  | events {a : EventAggregator} {state : AggregateState} {events : List Event}
      {applied : AppliedWindow} (hchain : state.chain = .parachain)
      (happly : a.apply state events [] = .ok applied) : LoopDelta .events applied.delta
  | parachainState {a : EventAggregator} {state : AggregateState} {s : Contract.Snapshot}
      {price : Option Float} {out : ScanOutput} (hchain : state.chain = .parachain)
      (hout : ParachainStateTarget.output a state s price = .ok out) :
      LoopDelta .parachainState out.delta
  | relayState {c : ProtocolConstants} {state : AggregateState} {s : Relay.StakingSnapshot}
      {eraStart : Option UInt64} {reports : RelayStateTarget.RecentReports}
      {payout : Option String} {out : ScanOutput} (hchain : state.chain = .relayChain)
      (hout : RelayStateTarget.output? c state s eraStart reports payout = some out) :
      LoopDelta .relayState out.delta
  | validatorsInfo {state : AggregateState} {infos : List ValidatorsInfo}
      (hchain : state.chain = .relayChain) :
      LoopDelta .validatorsInfo (ValidatorsInfoTarget.output state infos).delta

def ScalarOverwrites.ofEvents (last : Option UInt64) (apr : Option Float) : ScalarOverwrites :=
  { lastBlockWithEvents := last, apr }

/-- A change to what events add up to. -/
structure EventsOnly (d : AggregateDelta) : Prop where
  scalars : ∃ last apr, d.scalars = .ofEvents last apr
  ledgers : d.ledgers = []
  relayLedgers : d.relayLedgers = []
  validatorsInfo : d.validatorsInfo = none

namespace EventsOnly

variable {p : Progress}

theorem start (s : AggregateState) : EventsOnly (Progress.start s).delta :=
  ⟨⟨none, none, rfl⟩, rfl, rfl, rfl⟩

theorem changeHolder (h : EventsOnly p.delta) (holder : Address) (change : Amount → Amount) :
    EventsOnly (p.changeHolder holder change).delta := by
  unfold Progress.changeHolder
  split_ifs <;> exact ⟨h.scalars, h.ledgers, h.relayLedgers, h.validatorsInfo⟩

theorem move (h : EventsOnly p.delta) (e : EventPayload) : EventsOnly (p.move e).delta := by
  cases e with
  | transfer sender receiver value => exact (h.changeHolder sender _).changeHolder receiver _
  | _ => exact h

theorem note (h : EventsOnly p.delta) (limit : Nat) (row : Option RewardRow) :
    EventsOnly (p.note limit row).delta := by
  cases row <;> exact ⟨h.scalars, h.ledgers, h.relayLedgers, h.validatorsInfo⟩

theorem count (h : EventsOnly p.delta) (c : CounterIncrements) : EventsOnly (p.count c).delta :=
  ⟨h.scalars, h.ledgers, h.relayLedgers, h.validatorsInfo⟩

theorem take (h : EventsOnly p.delta) (limit : Nat) (e : Event) :
    EventsOnly (p.take limit e).delta :=
  ((h.move _).count _).note _ _

theorem closeBlock (h : EventsOnly p.delta) (a : EventAggregator) (block : UInt64) :
    EventsOnly (a.closeBlock p block).delta := by
  obtain ⟨last, apr, hscalars⟩ := h.scalars
  have hclose : { p.delta.scalars with lastBlockWithEvents := some block }
      = ScalarOverwrites.ofEvents (some block) apr := by rw [hscalars]; rfl
  have haverage : ∀ apr, { p.delta.scalars with lastBlockWithEvents := some block, apr }
      = ScalarOverwrites.ofEvents (some block) apr := fun _ => by rw [hscalars]; rfl
  unfold EventAggregator.closeBlock
  split_ifs
  · exact ⟨⟨_, _, haverage _⟩, h.ledgers, h.relayLedgers, h.validatorsInfo⟩
  · exact ⟨⟨_, _, hclose⟩, h.ledgers, h.relayLedgers, h.validatorsInfo⟩

theorem foldEvents (h : EventsOnly p.delta) (a : EventAggregator) (l : List Event) :
    EventsOnly (a.foldEvents p l).delta := by
  induction l generalizing p with
  | nil => exact h
  | cons e l ih =>
    unfold EventAggregator.foldEvents
    split_ifs
    · exact ih (h.take _ e)
    · exact ih ((h.take _ e).closeBlock a e.block)

theorem window (a : EventAggregator) (s : AggregateState) (events : List Event) :
    EventsOnly (a.window s events []).delta := by
  have h := (start s).foldEvents a (Event.ordered events)
  unfold EventAggregator.window
  rw [applySnapshots_nil, countHolders]
  split_ifs <;> exact ⟨h.scalars, h.ledgers, h.relayLedgers, h.validatorsInfo⟩

end EventsOnly

theorem EventAggregator.delta_window_ledgers (a : EventAggregator) (s : AggregateState)
    (ledgers : List LedgerRecord) :
    (a.window s [] ledgers).delta = { chain := s.chain, ledgers } := by
  simp [window, Event.ordered_nil, foldEvents, countHolders, Progress.start, applySnapshots]

theorem EventAggregator.checkWindow_nil (s : AggregateState) : checkWindow s [] = .ok () := by
  simp [checkWindow, checkFresh, checkReports, Event.ordered_nil, Except.bind]

def ParachainStateTarget.delta (chain : Chain) (s : Contract.Snapshot) (price : Option Float) :
    AggregateDelta :=
  { chain, scalars := scalars s price, ledgers := s.ledgers }

/-- A snapshot always has an output, as it comes without events. -/
theorem ParachainStateTarget.output_eq (a : EventAggregator) (state : AggregateState)
    (s : Contract.Snapshot) (price : Option Float) :
    output a state s price = .ok ⟨state.applyDelta (delta state.chain s price),
      delta state.chain s price, snapshotGauges s⟩ := by
  have hdelta : { (a.window state [] s.ledgers).delta with scalars := scalars s price }
      = delta state.chain s price := by
    rw [delta_window_ledgers]
    rfl
  unfold output
  rw [apply_of_checkWindow a s.ledgers (checkWindow_nil state), ← hdelta]
  rfl

namespace LoopDelta

variable {t u : TargetId} {d e : AggregateDelta}

theorem eventsOnly (h : LoopDelta .events d) : EventsOnly d := by
  cases h with
  | events _ happly =>
    obtain ⟨-, rfl⟩ := apply_eq_ok_iff.1 happly
    exact .window _ _ _

theorem eq_of_parachainState (h : LoopDelta .parachainState d) :
    ∃ s price, d = ParachainStateTarget.delta .parachain s price := by
  cases h with
  | @parachainState a state s price out hchain hout =>
    rw [ParachainStateTarget.output_eq, hchain] at hout
    cases hout
    exact ⟨s, price, rfl⟩

theorem delta_parachainState (s : Contract.Snapshot) (price : Option Float) :
    LoopDelta .parachainState (ParachainStateTarget.delta .parachain s price) := by
  have hout := ParachainStateTarget.output_eq (.ofConstants .standard 1) (.empty .parachain) s price
  exact .parachainState rfl hout

theorem eq_of_relayState (h : LoopDelta .relayState d) :
    ∃ scalars relayLedgers, d = { chain := .relayChain, scalars, relayLedgers } := by
  cases h with
  | @relayState c state s eraStart reports payout out hchain hout =>
    unfold RelayStateTarget.output? RelayStateTarget.delta? at hout
    cases hinflation : Metrics.inflationRate c s.auctions s.totalStaked s.totalIssuance with
    | none => rw [hinflation] at hout; cases hout
    | some inflation =>
      rw [hinflation] at hout
      cases hout
      exact ⟨_, _, rfl⟩

theorem eq_of_validatorsInfo (h : LoopDelta .validatorsInfo d) :
    ∃ infos, d = { chain := .relayChain, validatorsInfo := some infos } := by
  cases h with
  | validatorsInfo hchain => exact ⟨_, rfl⟩

theorem chain (h : LoopDelta t d) : d.chain = t.chain := by
  cases t with
  | events =>
    cases h with
    | events hchain happly => exact (chain_of_apply happly).2.trans hchain
  | parachainState =>
    obtain ⟨s, price, rfl⟩ := h.eq_of_parachainState
    rfl
  | relayState =>
    obtain ⟨scalars, relayLedgers, rfl⟩ := h.eq_of_relayState
    rfl
  | validatorsInfo =>
    obtain ⟨infos, rfl⟩ := h.eq_of_validatorsInfo
    rfl

theorem rewardRows_of_ne (h : LoopDelta t d) (hne : t ≠ .events) : d.rewardRows = [] := by
  cases t with
  | events => exact absurd rfl hne
  | parachainState =>
    obtain ⟨s, price, rfl⟩ := h.eq_of_parachainState
    rfl
  | relayState =>
    obtain ⟨scalars, relayLedgers, rfl⟩ := h.eq_of_relayState
    rfl
  | validatorsInfo =>
    obtain ⟨infos, rfl⟩ := h.eq_of_validatorsInfo
    rfl

theorem validatorsInfo_of_ne (h : LoopDelta t d) (hne : t ≠ .validatorsInfo) :
    d.validatorsInfo = none := by
  cases t with
  | events => exact h.eventsOnly.validatorsInfo
  | parachainState =>
    obtain ⟨s, price, rfl⟩ := h.eq_of_parachainState
    rfl
  | relayState =>
    obtain ⟨scalars, relayLedgers, rfl⟩ := h.eq_of_relayState
    rfl
  | validatorsInfo => exact absurd rfl hne

theorem applyDelta_validatorsInfo (h : LoopDelta .validatorsInfo d) (s : AggregateState) :
    s.applyDelta d = s := by
  obtain ⟨infos, rfl⟩ := h.eq_of_validatorsInfo
  exact s.applyDelta_empty .relayChain

theorem applyDelta_comm_parachain (hd : LoopDelta .events d) (he : LoopDelta .parachainState e)
    (s : AggregateState) : (s.applyDelta d).applyDelta e = (s.applyDelta e).applyDelta d := by
  obtain ⟨⟨last, apr, hscalars⟩, hledgers, hrelay, -⟩ := hd.eventsOnly
  obtain ⟨snapshot, price, rfl⟩ := he.eq_of_parachainState
  simp [AggregateState.applyDelta_eq, AggregateState.overwrite, AggregateState.increment,
    ParachainStateTarget.delta, ParachainStateTarget.scalars, ScalarOverwrites.ofEvents, hscalars,
    hledgers, hrelay]

/-- Changes of two loops lead to one state of a chain, whichever is applied first. -/
theorem applyDelta_comm (hd : LoopDelta t d) (he : LoopDelta u e) (hne : t ≠ u)
    (hchain : d.chain = e.chain) (s : AggregateState) :
    (s.applyDelta d).applyDelta e = (s.applyDelta e).applyDelta d := by
  rw [hd.chain, he.chain] at hchain
  cases t <;> cases u
  case events.parachainState => exact applyDelta_comm_parachain hd he s
  case parachainState.events => exact (applyDelta_comm_parachain he hd s).symm
  case relayState.validatorsInfo =>
    rw [he.applyDelta_validatorsInfo, he.applyDelta_validatorsInfo]
  case validatorsInfo.relayState =>
    rw [hd.applyDelta_validatorsInfo, hd.applyDelta_validatorsInfo]
  all_goals first | exact absurd rfl hne | cases hchain

end LoopDelta
end StakingIndexer
