import Mathlib
import StakingIndexer.Proofs.Aggregate.Totals
import StakingIndexer.Proofs.Reader.Plan

/-!
# Counting events

Deposits, redeems and reports are counted: each adds to a counter, and a report appends a row.
What a list of events is counted by tells how often its events are counted, transfers apart.
-/

namespace StakingIndexer

namespace Event

/-- Whether an event adds to a counter, perhaps with a report. Transfers move balances only. -/
def isCounted (e : Event) : Bool :=
  match e.payload with
  | .transfer _ _ _ => false
  | _ => true

variable {e : Event}

theorem increments_of_not_isCounted (h : e.isCounted = false) : e.payload.increments = {} := by
  obtain ⟨block, index, payload⟩ := e
  cases payload with
  | transfer sender receiver value => rfl
  | _ => cases h

theorem row?_of_not_isCounted (h : e.isCounted = false) : e.row? = none := by
  obtain ⟨block, index, payload⟩ := e
  cases payload with
  | transfer sender receiver value => rfl
  | _ => cases h

theorem ordered_filter {l : List Event} (hkeys : (l.map key).Nodup) (p : Event → Bool) :
    ordered (l.filter p) = (ordered l).filter p := by
  refine eq_of_pairwise_before (pairwise_ordered _) ((pairwise_ordered l).filter p) fun e => ?_
  rw [(ordered_perm_self (nodup_keys_filter hkeys p)).mem_iff, List.mem_filter, List.mem_filter,
    (ordered_perm_self hkeys).mem_iff]

theorem within_filter (w : BlockWindow) (l : List Event) (p : Event → Bool) :
    within w (l.filter p) = (within w l).filter p := by
  unfold within
  rw [List.filter_filter, List.filter_filter]
  exact List.filter_congr fun e _ => Bool.and_comm _ _

def counted (w : BlockWindow) (l : List Event) : List Event :=
  ordered (within w (l.filter isCounted))

theorem counted_eq_filter {l : List Event} (hkeys : (l.map key).Nodup) (w : BlockWindow) :
    counted w l = (ordered (within w l)).filter isCounted := by
  rw [counted, within_filter, ordered_filter (nodup_keys_within hkeys w)]

theorem mem_counted {l : List Event} (hkeys : (l.map key).Nodup) {w : BlockWindow} :
    e ∈ counted w l ↔ (e ∈ l ∧ e.isCounted) ∧ w.first ≤ e.block ∧ e.block ≤ w.last := by
  have hwithin := nodup_keys_within (nodup_keys_filter hkeys isCounted) w
  rw [counted, (ordered_perm_self hwithin).mem_iff, mem_within, List.mem_filter]

theorem nodup_counted (w : BlockWindow) (l : List Event) : (counted w l).Nodup :=
  (nodup_keys_of_pairwise (pairwise_ordered _)).of_map

end Event

namespace CounterIncrements

theorem ofEvents_filter_isCounted (l : List Event) :
    ofEvents (l.filter Event.isCounted) = ofEvents l := by
  induction l with
  | nil => rfl
  | cons e l ih =>
    cases he : e.isCounted with
    | true => rw [List.filter_cons_of_pos he, ofEvents_cons, ofEvents_cons, ih]
    | false =>
      rw [List.filter_cons_of_neg (by simp [he]), ih, ofEvents_cons,
        Event.increments_of_not_isCounted he, empty_add]

end CounterIncrements

theorem Event.filterMap_row?_filter_isCounted (l : List Event) :
    (l.filter isCounted).filterMap row? = l.filterMap row? := by
  induction l with
  | nil => rfl
  | cons e l ih =>
    cases he : e.isCounted with
    | true => rw [List.filter_cons_of_pos he, List.filterMap_cons, List.filterMap_cons, ih]
    | false =>
      rw [List.filter_cons_of_neg (by simp [he]), ih,
        List.filterMap_cons_none (row?_of_not_isCounted he)]

/-- What events are counted by: six counters, and the reports in their order. -/
structure Tally where
  deposited : Amount
  redeemed : Amount
  depositedCount : UInt64
  redeemedCount : UInt64
  rewardsAggregated : Amount
  lossesAggregated : Amount
  rows : List RewardRow
deriving DecidableEq

namespace Tally

def ofCounters (c : CounterIncrements) (rows : List RewardRow) : Tally :=
  ⟨c.deposited, c.redeemed, c.depositedCount, c.redeemedCount, c.rewardsAggregated,
    c.lossesAggregated, rows⟩

def add (s t : Tally) : Tally where
  deposited := s.deposited.satAdd t.deposited
  redeemed := s.redeemed.satAdd t.redeemed
  depositedCount := s.depositedCount + t.depositedCount
  redeemedCount := s.redeemedCount + t.redeemedCount
  rewardsAggregated := s.rewardsAggregated.satAdd t.rewardsAggregated
  lossesAggregated := s.lossesAggregated.satAdd t.lossesAggregated
  rows := s.rows ++ t.rows

/-- What a list of events comes to if each of its entries is counted. -/
def ofEvents (l : List Event) : Tally := ofCounters (.ofEvents l) (l.filterMap Event.row?)

theorem ofEvents_append (l m : List Event) :
    ofEvents (l ++ m) = (ofEvents l).add (ofEvents m) := by
  unfold ofEvents
  rw [CounterIncrements.ofEvents_append, List.filterMap_append]
  rfl

theorem ofEvents_filter_isCounted (l : List Event) :
    ofEvents (l.filter Event.isCounted) = ofEvents l := by
  unfold ofEvents
  rw [CounterIncrements.ofEvents_filter_isCounted, Event.filterMap_row?_filter_isCounted]

end Tally

namespace EventAggregator

/-- Folding a window counts its events once. -/
theorem tally_window (a : EventAggregator) (state : AggregateState) {events : List Event}
    (hkeys : (events.map Event.key).Nodup) {window : BlockWindow} {answer : List Event}
    (hanswer : answer.Perm (Event.within window events)) :
    Tally.ofCounters (a.window state answer []).delta.counters
      (a.window state answer []).delta.rewardRows
      = .ofEvents (Event.counted window events) := by
  have hwithin := Event.nodup_keys_within hkeys window
  rw [counters_window, rewardRows_window,
    Event.ordered_perm hanswer ((hanswer.map Event.key).nodup_iff.2 hwithin),
    Event.counted_eq_filter hkeys, Tally.ofEvents_filter_isCounted]
  rfl

end EventAggregator
end StakingIndexer
