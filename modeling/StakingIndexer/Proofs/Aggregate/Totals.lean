import Mathlib
import StakingIndexer.Proofs.Aggregate.Partition

/-!
# Totals of events

The history of reports, from which the average return is taken, bears on no other field of a
fold. States with the same totals therefore have the same totals behind every window. What a
window adds to the counters, and which reports it makes, depends on its events alone.
-/

namespace StakingIndexer

open EventAggregator

/-- What the events of a chain add up to, their history and its average apart. -/
structure EventTotals where
  deposited : Amount
  redeemed : Amount
  depositedCount : UInt64
  redeemedCount : UInt64
  rewardsAggregated : Amount
  lossesAggregated : Amount
  bufferedDeposits : Amount
  bufferedRedeems : Amount
  holderBalances : AddressMap Amount
  holdersNumber : UInt64
  lastBlockWithEvents : Option UInt64

namespace AggregateState

def totals (s : AggregateState) : EventTotals where
  deposited := s.deposited
  redeemed := s.redeemed
  depositedCount := s.depositedCount
  redeemedCount := s.redeemedCount
  rewardsAggregated := s.rewardsAggregated
  lossesAggregated := s.lossesAggregated
  bufferedDeposits := s.bufferedDeposits
  bufferedRedeems := s.bufferedRedeems
  holderBalances := s.holderBalances
  holdersNumber := s.holdersNumber
  lastBlockWithEvents := s.lastBlockWithEvents

@[simp] theorem totals_withHistory (s : AggregateState) (rows : List RewardRow) :
    (s.withHistory rows).totals = s.totals := rfl

variable {s t : AggregateState}

theorem totals_increment (h : s.totals = t.totals) (c : CounterIncrements) :
    (s.increment c).totals = (t.increment c).totals := by
  simp only [totals, EventTotals.mk.injEq] at h
  simp [totals, increment, h]

theorem totals_applyDelta (h : s.totals = t.totals) (d : AggregateDelta) :
    (s.applyDelta d).totals = (t.applyDelta d).totals := by
  simp only [totals, EventTotals.mk.injEq] at h
  simp [applyDelta_eq, totals, increment, overwrite, h]

end AggregateState

namespace CounterIncrements

def ofEvents (l : List Event) : CounterIncrements :=
  l.foldr (fun e c => e.payload.increments.add c) {}

@[simp] theorem ofEvents_nil : ofEvents [] = {} := rfl

theorem ofEvents_cons (e : Event) (l : List Event) :
    ofEvents (e :: l) = e.payload.increments.add (ofEvents l) := rfl

theorem ofEvents_append (l m : List Event) :
    ofEvents (l ++ m) = (ofEvents l).add (ofEvents m) := by
  induction l with
  | nil => simp
  | cons e l ih => rw [List.cons_append, ofEvents_cons, ofEvents_cons, ih, add_assoc]

end CounterIncrements

namespace EventAggregator

/-- Two folds with the same totals, up to the transfers they have seen. -/
structure Alike (p q : Progress) : Prop where
  totals : p.state.totals = q.state.totals
  sawTransfer : p.sawTransfer = q.sawTransfer

namespace Alike

variable {p q : Progress}

theorem start {s t : AggregateState} (h : s.totals = t.totals) : Alike (.start s) (.start t) :=
  ⟨h, rfl⟩

theorem changeHolder (h : Alike p q) (holder : Address) (change : Amount → Amount) :
    Alike (p.changeHolder holder change) (q.changeHolder holder change) := by
  obtain ⟨ht, hs⟩ := h
  unfold Progress.changeHolder
  split_ifs
  · exact ⟨ht, hs⟩
  · refine ⟨?_, hs⟩
    simp only [AggregateState.totals, EventTotals.mk.injEq] at ht
    simp [Progress.setHolder, Progress.balanceOf, AggregateState.totals, ht]

theorem move (h : Alike p q) (e : EventPayload) : Alike (p.move e) (q.move e) := by
  cases e with
  | transfer sender receiver value =>
    exact ⟨((h.changeHolder sender _).changeHolder receiver _).totals, rfl⟩
  | _ => exact h

theorem count (h : Alike p q) (c : CounterIncrements) : Alike (p.count c) (q.count c) :=
  ⟨AggregateState.totals_increment h.totals c, h.sawTransfer⟩

theorem note (h : Alike p q) (limit : Nat) (row : Option RewardRow) :
    Alike (p.note limit row) (q.note limit row) := by
  cases row with
  | none => exact h
  | some row => exact ⟨h.totals, h.sawTransfer⟩

theorem take (h : Alike p q) (limit : Nat) (e : Event) :
    Alike (p.take limit e) (q.take limit e) :=
  ((h.move _).count _).note _ _

theorem closeBlock (h : Alike p q) (a : EventAggregator) (block : UInt64) :
    Alike (a.closeBlock p block) (a.closeBlock q block) := by
  obtain ⟨ht, hs⟩ := h
  have hblock : ({ p.state with lastBlockWithEvents := some block } : AggregateState).totals
      = ({ q.state with lastBlockWithEvents := some block } : AggregateState).totals := by
    simp only [AggregateState.totals, EventTotals.mk.injEq] at ht
    simp [AggregateState.totals, ht]
  -- only one of the two may average anew, which totals leave out
  unfold EventAggregator.closeBlock
  split_ifs <;> exact ⟨hblock, hs⟩

theorem foldEvents (h : Alike p q) (a : EventAggregator) (l : List Event) :
    Alike (a.foldEvents p l) (a.foldEvents q l) := by
  induction l generalizing p q with
  | nil => exact h
  | cons e l ih =>
    unfold EventAggregator.foldEvents
    split_ifs
    · exact ih (h.take _ e)
    · exact ih ((h.take _ e).closeBlock a e.block)

theorem countHolders (h : Alike p q) :
    (countHolders p).state.totals = (countHolders q).state.totals := by
  obtain ⟨ht, hs⟩ := h
  unfold EventAggregator.countHolders
  rw [hs]
  simp only [AggregateState.totals, EventTotals.mk.injEq] at ht ⊢
  split_ifs <;> simp [ht]

end Alike

section Window

variable (a : EventAggregator) {s t : AggregateState} {events : List Event}

theorem totals_window (h : s.totals = t.totals) :
    (a.window s events []).state.totals = (a.window t events []).state.totals := by
  unfold window
  simp only [applySnapshots_nil]
  exact ((Alike.start h).foldEvents a _).countHolders

theorem checkWindow_of_totals (h : s.totals = t.totals) :
    checkWindow s events = checkWindow t events := by
  have hlast : s.lastBlockWithEvents = t.lastBlockWithEvents :=
    congrArg EventTotals.lastBlockWithEvents h
  unfold checkWindow checkFresh
  rw [hlast]

/-- The change of a window leads to the totals of its state. -/
theorem totals_applyDelta_window (s : AggregateState) (events : List Event) :
    (s.applyDelta (a.window s events []).delta).totals = (a.window s events []).state.totals := by
  rw [state_window]
  rfl

end Window

theorem counters_closeBlock (a : EventAggregator) (p : Progress) (block : UInt64) :
    (a.closeBlock p block).delta.counters = p.delta.counters := by
  unfold closeBlock
  split_ifs <;> rfl

theorem rewardRows_closeBlock (a : EventAggregator) (p : Progress) (block : UInt64) :
    (a.closeBlock p block).delta.rewardRows = p.delta.rewardRows := by
  unfold closeBlock
  split_ifs <;> rfl

theorem delta_changeHolder (p : Progress) (holder : Address) (change : Amount → Amount) :
    (p.changeHolder holder change).delta.counters = p.delta.counters ∧
      (p.changeHolder holder change).delta.rewardRows = p.delta.rewardRows := by
  unfold Progress.changeHolder
  split_ifs <;> exact ⟨rfl, rfl⟩

theorem delta_move (p : Progress) (e : EventPayload) :
    (p.move e).delta.counters = p.delta.counters ∧
      (p.move e).delta.rewardRows = p.delta.rewardRows := by
  cases e with
  | transfer sender receiver value =>
    have hsender := delta_changeHolder p sender (·.satSub value)
    have hreceiver := delta_changeHolder (p.changeHolder sender (·.satSub value)) receiver
      (·.satAdd value)
    exact ⟨hreceiver.1.trans hsender.1, hreceiver.2.trans hsender.2⟩
  | _ => exact ⟨rfl, rfl⟩

theorem counters_take (p : Progress) (limit : Nat) (e : Event) :
    (p.take limit e).delta.counters = p.delta.counters.add e.payload.increments := by
  have hmove := (delta_move p e.payload).1
  unfold Progress.take
  cases e.row? <;> rw [← hmove] <;> rfl

theorem rewardRows_take (p : Progress) (limit : Nat) (e : Event) :
    (p.take limit e).delta.rewardRows = p.delta.rewardRows ++ e.row?.toList := by
  have hmove := (delta_move p e.payload).2
  unfold Progress.take
  rw [← hmove]
  cases e.row? with
  | none => exact (List.append_nil _).symm
  | some row => rfl

theorem counters_foldEvents (a : EventAggregator) (p : Progress) (l : List Event) :
    (a.foldEvents p l).delta.counters
      = p.delta.counters.add (CounterIncrements.ofEvents l) := by
  induction l generalizing p with
  | nil => simp [foldEvents]
  | cons e l ih =>
    unfold foldEvents
    rw [ih, CounterIncrements.ofEvents_cons, ← CounterIncrements.add_assoc,
      ← counters_take p a.historyLimit e]
    split_ifs
    · rfl
    · rw [counters_closeBlock]

theorem rewardRows_foldEvents (a : EventAggregator) (p : Progress) (l : List Event) :
    (a.foldEvents p l).delta.rewardRows = p.delta.rewardRows ++ l.filterMap Event.row? := by
  induction l generalizing p with
  | nil => simp [foldEvents]
  | cons e l ih =>
    have hcons : (e :: l).filterMap Event.row? = e.row?.toList ++ l.filterMap Event.row? := by
      cases he : e.row? <;> simp [he]
    unfold foldEvents
    rw [ih, hcons, ← List.append_assoc, ← rewardRows_take p a.historyLimit e]
    split_ifs
    · rfl
    · rw [rewardRows_closeBlock]

/-- A window adds to the counters what its events do, each place taken once. -/
theorem counters_window (a : EventAggregator) (s : AggregateState) (events : List Event) :
    (a.window s events []).delta.counters
      = CounterIncrements.ofEvents (Event.ordered events) := by
  unfold window
  rw [applySnapshots_nil, countHolders]
  split_ifs <;> simp [counters_foldEvents, Progress.start]

theorem rewardRows_window (a : EventAggregator) (s : AggregateState) (events : List Event) :
    (a.window s events []).delta.rewardRows = (Event.ordered events).filterMap Event.row? := by
  unfold window
  rw [applySnapshots_nil, countHolders]
  split_ifs <;> simp [rewardRows_foldEvents, Progress.start]

end EventAggregator
end StakingIndexer
