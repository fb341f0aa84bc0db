import Mathlib
import StakingIndexer.Proofs.Aggregate.Window

/-!
# Replaying a change

The fold keeps a state and a change side by side. At every point of it the state is what the
change and its reports lead to from the first state, so that a store which applies the change
and a reader which appends the reports arrive where the fold did.
-/

namespace StakingIndexer

open EventAggregator

namespace AggregateState

/-- Append a report to a history of which `limit` reports of each ledger stay. -/
def pushRow (limit : Nat) (history : AddressMap (List RewardRow)) (row : RewardRow) :
    AddressMap (List RewardRow) :=
  history.update row.ledger [] fun rows => keepLast limit (rows ++ [row])

theorem foldl_pushReward (limit : Nat) (rows : List RewardRow) (s : AggregateState) :
    rows.foldl (fun t row => t.pushReward row limit) s
      = { s with recentRewards := rows.foldl (pushRow limit) s.recentRewards } := by
  induction rows generalizing s with
  | nil => rfl
  | cons row rows ih => rw [List.foldl_cons, ih]; rfl

/-- The state to which a change and its reports lead. -/
def replay (limit : Nat) (s : AggregateState) (d : AggregateDelta) : AggregateState :=
  { s.applyDelta d with recentRewards := d.rewardRows.foldl (pushRow limit) s.recentRewards }

variable (limit : Nat) (s : AggregateState) (d : AggregateDelta)

theorem foldl_pushReward_applyDelta :
    d.rewardRows.foldl (fun t row => t.pushReward row limit) (s.applyDelta d)
      = s.replay limit d :=
  foldl_pushReward limit d.rewardRows (s.applyDelta d)

@[simp] theorem replay_empty (c : Chain) : s.replay limit { chain := c } = s := by
  simp [replay]

theorem replay_setBalance (k : Address) (v : Amount) :
    s.replay limit { d with holderBalances := d.holderBalances.insert k v }
      = { s.replay limit d with
          holderBalances := setBalance (s.replay limit d).holderBalances k v } := by
  unfold replay
  rw [applyDelta_eq, applyDelta_eq, setBalances_insert]

theorem replay_count (c : CounterIncrements) :
    s.replay limit { d with counters := d.counters.add c }
      = (s.replay limit d).increment c := by
  unfold replay
  rw [applyDelta_eq, applyDelta_eq, increment_add]
  rfl

theorem replay_report (row : RewardRow) :
    s.replay limit { d with rewardRows := d.rewardRows ++ [row] }
      = (s.replay limit d).pushReward row limit := by
  unfold replay
  rw [List.foldl_append]
  rfl

theorem replay_closeBlock (block : UInt64) :
    s.replay limit
        { d with scalars := { d.scalars with lastBlockWithEvents := some block } }
      = { s.replay limit d with lastBlockWithEvents := some block } := rfl

theorem replay_apr (apr : Float) :
    s.replay limit { d with scalars := { d.scalars with apr := some apr } }
      = { s.replay limit d with apr } := rfl

theorem replay_holdersNumber (n : UInt64) :
    s.replay limit { d with holdersNumber := some n }
      = { s.replay limit d with holdersNumber := n } := rfl

theorem replay_ledgers (ledgers : List LedgerRecord) :
    s.replay limit { d with ledgers := d.ledgers ++ ledgers }
      = { s.replay limit d with
          ledgers := ledgers.foldl (fun m r => m.insert r.ledger r)
            (s.replay limit d).ledgers } := by
  unfold replay
  rw [applyDelta_eq, applyDelta_eq, List.foldl_append]

end AggregateState

namespace EventAggregator

/-- The state of a fold is what its change leads to. -/
def Replays (limit : Nat) (s : AggregateState) (p : Progress) : Prop :=
  p.state = s.replay limit p.delta

namespace Replays

variable {limit : Nat} {s : AggregateState} {p : Progress}

theorem start (limit : Nat) (s : AggregateState) : Replays limit s (.start s) :=
  (AggregateState.replay_empty limit s s.chain).symm

theorem changeHolder (h : Replays limit s p) (holder : Address) (change : Amount → Amount) :
    Replays limit s (p.changeHolder holder change) := by
  unfold Progress.changeHolder
  split_ifs
  · exact h
  · unfold Replays Progress.setHolder
    rw [AggregateState.replay_setBalance, ← h]

theorem move (h : Replays limit s p) (e : EventPayload) : Replays limit s (p.move e) := by
  cases e with
  | transfer sender receiver value => exact (h.changeHolder _ _).changeHolder _ _
  | _ => exact h

theorem count (h : Replays limit s p) (c : CounterIncrements) :
    Replays limit s (p.count c) := by
  have hc := AggregateState.replay_count limit s p.delta c
  rw [← h] at hc
  exact hc.symm

theorem note (h : Replays limit s p) (row : Option RewardRow) :
    Replays limit s (p.note limit row) := by
  cases row with
  | none => exact h
  | some row =>
    have hr := AggregateState.replay_report limit s p.delta row
    rw [← h] at hr
    exact hr.symm

theorem take (h : Replays limit s p) (e : Event) : Replays limit s (p.take limit e) :=
  ((h.move _).count _).note _

theorem closeBlock (h : Replays limit s p) (a : EventAggregator) (block : UInt64) :
    Replays limit s (a.closeBlock p block) := by
  have hblock := AggregateState.replay_closeBlock limit s p.delta block
  rw [← h] at hblock
  unfold EventAggregator.closeBlock
  split_ifs
  · have hapr := AggregateState.replay_apr limit s
      { p.delta with scalars := { p.delta.scalars with lastBlockWithEvents := some block } }
      (a.currentApr { p.state with lastBlockWithEvents := some block })
    rw [hblock] at hapr
    exact hapr.symm
  · exact hblock.symm

theorem foldEvents {a : EventAggregator} (h : Replays a.historyLimit s p) (l : List Event) :
    Replays a.historyLimit s (a.foldEvents p l) := by
  induction l generalizing p with
  | nil => exact h
  | cons e l ih =>
    unfold EventAggregator.foldEvents
    split_ifs
    · exact ih (h.take e)
    · exact ih ((h.take e).closeBlock a e.block)

theorem countHolders (h : Replays limit s p) : Replays limit s (countHolders p) := by
  unfold EventAggregator.countHolders
  split_ifs
  · unfold Replays
    rw [AggregateState.replay_holdersNumber, ← h]
  · exact h

theorem applySnapshots (h : Replays limit s p) (ledgers : List LedgerRecord) :
    Replays limit s (applySnapshots p ledgers) := by
  unfold Replays EventAggregator.applySnapshots
  rw [AggregateState.replay_ledgers, ← h]

end Replays

/-- The state behind a window is what its change and its reports lead to. -/
theorem state_window (a : EventAggregator) (s : AggregateState) (events : List Event)
    (ledgers : List LedgerRecord) :
    (a.window s events ledgers).state
      = s.replay a.historyLimit (a.window s events ledgers).delta :=
  (((Replays.start a.historyLimit s).foldEvents _).countHolders).applySnapshots ledgers

/-- A reader of the store that applies the change of a window and appends its reports, each
to the last reports of its ledger, has the state that the fold returned. -/
theorem pushReward_applyDelta_of_apply {a : EventAggregator} {s : AggregateState}
    {events : List Event} {ledgers : List LedgerRecord} {r : AppliedWindow}
    (h : a.apply s events ledgers = .ok r) :
    r.delta.rewardRows.foldl (fun t row => t.pushReward row a.historyLimit)
      (s.applyDelta r.delta) = r.state := by
  obtain ⟨-, rfl⟩ := apply_eq_ok_iff.1 h
  rw [AggregateState.foldl_pushReward_applyDelta, ← state_window]

/-- A state whose deposits can grow no more, and whose redeem buffer is almost empty. -/
def brimming : AggregateState :=
  { AggregateState.empty .parachain with
    deposited := .max
    bufferedRedeems := .ofUInt64 3
    holderBalances := AddressMap.empty.insert (.ofNat 1) (.ofUInt64 9) }

/-- Events of every kind, out of order and with one of them twice. The first holder loses
everything it holds. -/
def mixedEvents : List Event :=
  [⟨8, 0, .losses (.ofNat 7) (.ofUInt64 4) (.ofUInt64 90)⟩,
    ⟨5, 1, .deposited (.ofNat 2) (.ofUInt64 6)⟩,
    ⟨5, 0, .transfer (.ofNat 1) (.ofNat 2) (.ofUInt64 9)⟩,
    ⟨5, 1, .deposited (.ofNat 2) (.ofUInt64 6)⟩,
    ⟨6, 2, .redeemed (.ofNat 2) (.ofUInt64 8)⟩,
    ⟨7, 0, .rewards (.ofNat 7) (.ofUInt64 5) (.ofUInt64 94)⟩]

theorem ordered_mixedEvents : Event.ordered mixedEvents =
    [⟨5, 0, .transfer (.ofNat 1) (.ofNat 2) (.ofUInt64 9)⟩,
      ⟨5, 1, .deposited (.ofNat 2) (.ofUInt64 6)⟩,
      ⟨6, 2, .redeemed (.ofNat 2) (.ofUInt64 8)⟩,
      ⟨7, 0, .rewards (.ofNat 7) (.ofUInt64 5) (.ofUInt64 94)⟩,
      ⟨8, 0, .losses (.ofNat 7) (.ofUInt64 4) (.ofUInt64 90)⟩] := by cbv

/-- A ledger that is reported twice in one window counts like any other. -/
theorem pushReward_applyDelta_brimming :
    ∃ r, (EventAggregator.ofConstants .standard 1).apply brimming mixedEvents
        [default, default] = .ok r ∧
      r.delta.rewardRows.foldl (fun t row => t.pushReward row 1) (brimming.applyDelta r.delta)
        = r.state := by
  have hcheck : checkWindow brimming mixedEvents = .ok () := by
    rw [checkWindow, ordered_mixedEvents]
    decide +kernel
  have happly := apply_of_checkWindow (.ofConstants .standard 1) [default, default] hcheck
  exact ⟨_, happly, pushReward_applyDelta_of_apply happly⟩

end EventAggregator
end StakingIndexer
