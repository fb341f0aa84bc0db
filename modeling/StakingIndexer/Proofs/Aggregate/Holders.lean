import Mathlib
import StakingIndexer.Proofs.Aggregate.Partition

/-!
# Holders and their number

The zero address holds nothing, and who holds nothing is not a holder. Balances move with
transfers alone, and the holders are counted behind each window that holds one, so that their
number is that of the balances at the end of every window.
-/

namespace StakingIndexer

open EventAggregator

namespace AddressMap

/-- Balances of holders: the zero address is none, and none of them is zero. -/
structure HoldersOnly (m : AddressMap Amount) : Prop where
  zeroAddress : m.get? .zero = none
  positive : ∀ holder balance, m.get? holder = some balance → balance ≠ .zero

theorem holdersOnly_empty : (empty : AddressMap Amount).HoldersOnly :=
  ⟨rfl, fun _ _ h => by cases h⟩

theorem HoldersOnly.setBalance {m : AddressMap Amount} (h : m.HoldersOnly) {holder : Address}
    (hholder : holder ≠ .zero) (balance : Amount) :
    (AggregateState.setBalance m holder balance).HoldersOnly := by
  constructor
  · rw [AggregateState.get?_setBalance, if_neg (Ne.symm hholder)]
    exact h.zeroAddress
  · intro other found hfound
    rw [AggregateState.get?_setBalance] at hfound
    split_ifs at hfound with hother hzero
    · cases hfound
      rintro rfl
      exact hzero rfl
    · exact h.positive other found hfound

/-- The balance of a holder; who is not tracked has none. -/
def balanceOf (m : AddressMap Amount) (holder : Address) : Amount := (m.get? holder).getD .zero

/-- Change the balance of a holder; the zero address holds nothing. -/
def change (m : AddressMap Amount) (holder : Address) (f : Amount → Amount) : AddressMap Amount :=
  if holder = .zero then m else AggregateState.setBalance m holder (f (m.balanceOf holder))

def moved (m : AddressMap Amount) : EventPayload → AddressMap Amount
  | .transfer sender receiver value =>
    (m.change sender (·.satSub value)).change receiver (·.satAdd value)
  | _ => m

def movedAll (m : AddressMap Amount) (l : List Event) : AddressMap Amount :=
  l.foldl (fun m e => m.moved e.payload) m

theorem HoldersOnly.change {m : AddressMap Amount} (h : m.HoldersOnly) (holder : Address)
    (f : Amount → Amount) : (m.change holder f).HoldersOnly := by
  unfold AddressMap.change
  split_ifs with hholder
  · exact h
  · exact h.setBalance hholder _

theorem HoldersOnly.moved {m : AddressMap Amount} (h : m.HoldersOnly) (e : EventPayload) :
    (m.moved e).HoldersOnly := by
  cases e with
  | transfer sender receiver value =>
    exact (h.change sender (·.satSub value)).change receiver (·.satAdd value)
  | _ => exact h

theorem HoldersOnly.movedAll {m : AddressMap Amount} (h : m.HoldersOnly) (l : List Event) :
    (m.movedAll l).HoldersOnly := by
  induction l generalizing m with
  | nil => exact h
  | cons e l ih => exact ih (h.moved e.payload)

end AddressMap

namespace AggregateState

/-- The balances of a state, and the number that it gives of them. -/
def holders (s : AggregateState) : AddressMap Amount × UInt64 := (s.holderBalances, s.holdersNumber)

/-- The balances are those of holders, and their number is known. -/
structure HoldersCounted (s : AggregateState) : Prop where
  holdersOnly : s.holderBalances.HoldersOnly
  counted : s.holdersNumber = .ofNat s.holderBalances.size

variable {s t : AggregateState}

theorem holdersCounted_empty (chain : Chain) : (AggregateState.empty chain).HoldersCounted :=
  ⟨AddressMap.holdersOnly_empty, rfl⟩

theorem HoldersCounted.of_holders_eq (h : s.HoldersCounted) (heq : t.holders = s.holders) :
    t.HoldersCounted := by
  obtain ⟨hbalances, hnumber⟩ := Prod.mk.inj heq
  exact ⟨hbalances ▸ h.holdersOnly, by rw [hnumber, h.counted, hbalances]⟩

theorem HoldersCounted.toNat_holdersNumber (h : s.HoldersCounted)
    (hsize : s.holderBalances.size < UInt64.size) :
    s.holdersNumber.toNat = s.holderBalances.size := by
  rw [h.counted]
  exact UInt64.toNat_ofNat_of_lt hsize

theorem holders_applyDelta_congr (h : s.holders = t.holders) (d : AggregateDelta) :
    (s.applyDelta d).holders = (t.applyDelta d).holders := by
  obtain ⟨hbalances, hnumber⟩ := Prod.mk.inj h
  change (setBalances s.holderBalances d.holderBalances, d.holdersNumber.getD s.holdersNumber)
    = (setBalances t.holderBalances d.holderBalances, d.holdersNumber.getD t.holdersNumber)
  rw [hbalances, hnumber]

theorem holders_applyDelta_of_none {d : AggregateDelta} (hbalances : d.holderBalances = .empty)
    (hnumber : d.holdersNumber = none) (s : AggregateState) :
    (s.applyDelta d).holders = s.holders := by
  change (setBalances s.holderBalances d.holderBalances, d.holdersNumber.getD s.holdersNumber) = _
  rw [hbalances, hnumber]
  rfl

end AggregateState

namespace EventAggregator

theorem holderBalances_closeBlock (a : EventAggregator) (p : Progress) (block : UInt64) :
    (a.closeBlock p block).state.holderBalances = p.state.holderBalances := by
  unfold closeBlock
  split_ifs <;> rfl

theorem holderBalances_changeHolder (p : Progress) (holder : Address) (f : Amount → Amount) :
    (p.changeHolder holder f).state.holderBalances
      = p.state.holderBalances.change holder f := by
  unfold Progress.changeHolder AddressMap.change
  split_ifs <;> rfl

theorem holderBalances_take (p : Progress) (limit : Nat) (e : Event) :
    (p.take limit e).state.holderBalances = p.state.holderBalances.moved e.payload := by
  have hmove : (p.move e.payload).state.holderBalances
      = p.state.holderBalances.moved e.payload := by
    cases e.payload with
    | transfer sender receiver value =>
      change ((p.changeHolder sender _).changeHolder receiver _).state.holderBalances = _
      rw [holderBalances_changeHolder, holderBalances_changeHolder]
      rfl
    | _ => rfl
  rw [← hmove]
  unfold Progress.take
  cases e.row? <;> rfl

theorem holderBalances_foldEvents (a : EventAggregator) (p : Progress) (l : List Event) :
    (a.foldEvents p l).state.holderBalances = p.state.holderBalances.movedAll l := by
  induction l generalizing p with
  | nil => rfl
  | cons e l ih =>
    have htake := holderBalances_take p a.historyLimit e
    unfold foldEvents
    rw [ih, AddressMap.movedAll, AddressMap.movedAll, List.foldl_cons, ← htake]
    split_ifs
    · rfl
    · rw [holderBalances_closeBlock]

/-- The balances behind a window are those that its events move to, each place taken once. -/
theorem holderBalances_window (a : EventAggregator) (s : AggregateState) (events : List Event)
    (ledgers : List LedgerRecord) :
    (a.window s events ledgers).state.holderBalances
      = s.holderBalances.movedAll (Event.ordered events) := by
  have hfold := holderBalances_foldEvents a (.start s) (Event.ordered events)
  unfold window countHolders
  split_ifs <;> exact hfold

/-- Counted holders stay counted through a window, whether or not it holds a transfer. -/
theorem holdersCounted_window (a : EventAggregator) {s : AggregateState} (h : s.HoldersCounted)
    (events : List Event) (ledgers : List LedgerRecord) :
    (a.window s events ledgers).state.HoldersCounted := by
  have hfold := (Uncounted.start s).foldEvents a (Event.ordered events)
  have hbalances :
      (a.foldEvents (.start s) (Event.ordered events)).state.holderBalances.HoldersOnly := by
    rw [holderBalances_foldEvents]
    exact h.holdersOnly.movedAll _
  suffices hcounted :
      (countHolders (a.foldEvents (.start s) (Event.ordered events))).state.HoldersCounted from
    hcounted.of_holders_eq rfl
  generalize a.foldEvents (.start s) (Event.ordered events) = p at hfold hbalances
  cases hsaw : p.sawTransfer with
  | true =>
    rw [countHolders_of_seen hsaw]
    exact ⟨hbalances, rfl⟩
  | false =>
    rw [countHolders_of_unseen hsaw]
    refine h.of_holders_eq ?_
    rw [AggregateState.holders, hfold.unmoved hsaw, hfold.holders]
    rfl

theorem holdersCounted_apply {a : EventAggregator} {s : AggregateState} {events : List Event}
    {ledgers : List LedgerRecord} {r : AppliedWindow} (h : s.HoldersCounted)
    (happly : a.apply s events ledgers = .ok r) : r.state.HoldersCounted := by
  obtain ⟨-, rfl⟩ := apply_eq_ok_iff.1 happly
  exact a.holdersCounted_window h events ledgers

/-- A stored state with the holders of a state has those of the next one behind the change. -/
theorem holders_applyDelta_of_apply {a : EventAggregator} {s stored : AggregateState}
    {events : List Event} {ledgers : List LedgerRecord} {r : AppliedWindow}
    (happly : a.apply s events ledgers = .ok r) (h : stored.holders = s.holders) :
    (stored.applyDelta r.delta).holders = r.state.holders := by
  obtain ⟨-, rfl⟩ := apply_eq_ok_iff.1 happly
  rw [AggregateState.holders_applyDelta_congr h, state_window]
  rfl

/-- The states to which windows lead from nothing. -/
inductive Built (chain : Chain) : AggregateState → Prop
  | empty : Built chain (.empty chain)
  | apply {s : AggregateState} (h : Built chain s) {a : EventAggregator} {events : List Event}
      {ledgers : List LedgerRecord} {r : AppliedWindow}
      (happly : a.apply s events ledgers = .ok r) : Built chain r.state

theorem Built.holdersCounted {chain : Chain} {s : AggregateState} (h : Built chain s) :
    s.HoldersCounted := by
  induction h with
  | empty => exact AggregateState.holdersCounted_empty chain
  | apply _ happly ih => exact holdersCounted_apply ih happly

end EventAggregator
end StakingIndexer
