import Mathlib
import StakingIndexer.Proofs.Aggregate.Holders

/-!
# Conservation of balances

A transfer takes off one balance what it adds to another, also if both are the same, and the
zero address has none. So the sum of the tracked balances grows by what is minted and falls by
what is burnt, as long as no sender spends more than is tracked of it and no balance stops at
its greatest value.
-/

namespace StakingIndexer

open EventAggregator

namespace AddressMap

/-- The balance in the entry of a holder; who has no entry has none. -/
def entryBalance (l : List (Address × Amount)) (holder : Address) : Amount :=
  ((l.find? fun e => e.1 = holder).map (·.2)).getD .zero

def entrySum (l : List (Address × Amount)) : Nat := (l.map (·.2.toNat)).sum

theorem entryBalance_cons_of_ne {e : Address × Amount} {holder : Address} (h : e.1 ≠ holder)
    (l : List (Address × Amount)) : entryBalance (e :: l) holder = entryBalance l holder := by
  simp [entryBalance, h]

theorem entryBalance_cons_self (e : Address × Amount) (l : List (Address × Amount)) :
    entryBalance (e :: l) e.1 = e.2 := by
  simp [entryBalance]

theorem entryBalance_of_lt {l : List (Address × Amount)} {holder : Address}
    (h : ∀ e ∈ l, holder < e.1) : entryBalance l holder = .zero := by
  have hnone : l.find? (fun e => e.1 = holder) = none := by
    rw [List.find?_eq_none]
    intro e he hholder
    have hlt := h e he
    rw [of_decide_eq_true hholder] at hlt
    exact Address.lt_irrefl _ hlt
  rw [entryBalance, hnone]
  rfl

theorem entrySum_cons (e : Address × Amount) (l : List (Address × Amount)) :
    entrySum (e :: l) = e.2.toNat + entrySum l := by
  rw [entrySum, List.map_cons, List.sum_cons, entrySum]

theorem entrySum_insertEntry (holder : Address) (balance : Amount) {l : List (Address × Amount)}
    (h : l.Pairwise fun a b => a.1 < b.1) :
    entrySum (insertEntry holder balance l) + (entryBalance l holder).toNat
      = entrySum l + balance.toNat := by
  induction l with
  | nil => exact (Nat.zero_add _).symm
  | cons e l ih =>
    obtain ⟨he, hl⟩ := List.pairwise_cons.1 h
    have hrest := ih hl
    unfold insertEntry
    split_ifs with hbefore hbehind
    · have hnone : entryBalance (e :: l) holder = .zero := by
        refine entryBalance_of_lt fun x hx => ?_
        rcases List.mem_cons.1 hx with rfl | hx
        · exact hbefore
        · exact Nat.lt_trans hbefore (he x hx)
      simp only [hnone, entrySum_cons, Amount.toNat_zero]
      omega
    · have hne : e.1 ≠ holder := fun heq => Address.lt_irrefl _ (heq ▸ hbehind)
      simp only [entryBalance_cons_of_ne hne, entrySum_cons]
      omega
    · obtain rfl := Address.eq_of_not_lt hbehind hbefore
      simp only [entryBalance_cons_self, entrySum_cons]
      omega

theorem entrySum_filter_ne (holder : Address) {l : List (Address × Amount)}
    (h : l.Pairwise fun a b => a.1 < b.1) :
    entrySum (l.filter fun e => e.1 ≠ holder) + (entryBalance l holder).toNat = entrySum l := by
  induction l with
  | nil => rfl
  | cons e l ih =>
    obtain ⟨he, hl⟩ := List.pairwise_cons.1 h
    have hrest := ih hl
    by_cases hholder : e.1 = holder
    · subst hholder
      rw [entryBalance_of_lt he, Amount.toNat_zero] at hrest
      rw [List.filter_cons_of_neg (by simp), entryBalance_cons_self, entrySum_cons]
      omega
    · rw [List.filter_cons_of_pos (by simpa using hholder), entryBalance_cons_of_ne hholder,
        entrySum_cons, entrySum_cons]
      omega

/-- The sum of all tracked balances. -/
def supply (m : AddressMap Amount) : Nat := entrySum m.entries

theorem supply_setBalance (m : AddressMap Amount) (holder : Address) (balance : Amount) :
    (AggregateState.setBalance m holder balance).supply + (m.balanceOf holder).toNat
      = m.supply + balance.toNat := by
  unfold AggregateState.setBalance
  split_ifs with hzero
  · have hbalance : balance.toNat = 0 := by simpa [Amount.isZero] using hzero
    rw [hbalance]
    exact entrySum_filter_ne holder m.sorted
  · exact entrySum_insertEntry holder balance m.sorted

theorem balanceOf_change_of_ne (m : AddressMap Amount) {holder other : Address}
    (h : other ≠ holder) (f : Amount → Amount) :
    (m.change holder f).balanceOf other = m.balanceOf other := by
  unfold change balanceOf
  split_ifs
  · rfl
  · rw [AggregateState.get?_setBalance, if_neg h]

theorem balanceOf_change_self (m : AddressMap Amount) {holder : Address} (h : holder ≠ .zero)
    (f : Amount → Amount) : (m.change holder f).balanceOf holder = f (m.balanceOf holder) := by
  unfold change
  rw [if_neg h, balanceOf, AggregateState.get?_setBalance, if_pos rfl]
  split_ifs with hzero
  · exact (Amount.ext (by simpa [Amount.isZero] using hzero)).symm
  · rfl

theorem supply_change (m : AddressMap Amount) {holder : Address} (h : holder ≠ .zero)
    (f : Amount → Amount) :
    (m.change holder f).supply + (m.balanceOf holder).toNat
      = m.supply + (f (m.balanceOf holder)).toNat := by
  unfold change
  rw [if_neg h, supply_setBalance]

/-- A transfer spends no more than is tracked of its sender, and leaves its receiver no more than
a balance can be. Who sends to himself gets back what he gives, so nothing more is asked then. -/
def Covers (m : AddressMap Amount) : EventPayload → Prop
  | .transfer sender receiver value =>
    (sender ≠ .zero → value.toNat ≤ (m.balanceOf sender).toNat) ∧
      (receiver ≠ .zero → receiver ≠ sender →
        (m.balanceOf receiver).toNat + value.toNat ≤ Amount.max.toNat)
  | _ => True

instance (m : AddressMap Amount) : (e : EventPayload) → Decidable (m.Covers e)
  | .transfer _ _ _ => inferInstanceAs (Decidable (_ ∧ _))
  | .deposited _ _ => .isTrue trivial
  | .redeemed _ _ => .isTrue trivial
  | .rewards _ _ _ => .isTrue trivial
  | .losses _ _ _ => .isTrue trivial

/-- Every transfer is covered by the balances that it meets. -/
def CoversAll : AddressMap Amount → List Event → Prop
  | _, [] => True
  | m, e :: rest => m.Covers e.payload ∧ CoversAll (m.moved e.payload) rest

instance decidableCoversAll : (m : AddressMap Amount) → (l : List Event) →
    Decidable (m.CoversAll l)
  | _, [] => .isTrue trivial
  | m, e :: rest =>
    have := decidableCoversAll (m.moved e.payload) rest
    inferInstanceAs (Decidable (_ ∧ _))

end AddressMap

namespace EventPayload

/-- What a transfer from the zero address brings to a holder. -/
def minted : EventPayload → Nat
  | transfer sender receiver value =>
    if sender = .zero ∧ receiver ≠ .zero then value.toNat else 0
  | _ => 0

/-- What a transfer to the zero address takes from a holder. -/
def burnt : EventPayload → Nat
  | transfer sender receiver value =>
    if sender ≠ .zero ∧ receiver = .zero then value.toNat else 0
  | _ => 0

end EventPayload

namespace Event

def totalMinted (l : List Event) : Nat := (l.map (·.payload.minted)).sum

def totalBurnt (l : List Event) : Nat := (l.map (·.payload.burnt)).sum

end Event

namespace AddressMap

variable {m : AddressMap Amount}

theorem supply_spend {sender : Address} (hsender : sender ≠ .zero) {value : Amount}
    (h : value.toNat ≤ (m.balanceOf sender).toNat) :
    (m.change sender (·.satSub value)).supply + value.toNat = m.supply := by
  have hchange := m.supply_change hsender (·.satSub value)
  simp only [Amount.toNat_satSub] at hchange
  omega

/-- What a receiver gets joins the tracked balances, unless the balance stops at its end. -/
theorem supply_receive {receiver : Address} (hreceiver : receiver ≠ .zero) {value : Amount}
    (h : (m.balanceOf receiver).toNat + value.toNat ≤ Amount.max.toNat) :
    (m.change receiver (·.satAdd value)).supply = m.supply + value.toNat := by
  have hchange := m.supply_change hreceiver (·.satAdd value)
  simp only [Amount.toNat_satAdd, Amount.toNat_max] at hchange h
  omega

theorem change_zero (m : AddressMap Amount) (f : Amount → Amount) : m.change .zero f = m :=
  if_pos rfl

/-- Behind a covered transfer the sum of the balances differs by what it mints or burns. -/
theorem supply_moved {e : EventPayload} (h : m.Covers e) :
    (m.moved e).supply + e.burnt = m.supply + e.minted := by
  cases e with
  | transfer sender receiver value =>
    obtain ⟨hspends, hreceives⟩ := h
    unfold moved EventPayload.burnt EventPayload.minted
    by_cases hsender : sender = .zero
    · subst hsender
      by_cases hreceiver : receiver = .zero
      · subst hreceiver
        simp [change_zero]
      · have hreceive := supply_receive hreceiver (hreceives hreceiver hreceiver)
        simp [change_zero, hreceiver, hreceive]
    · have hspend := supply_spend hsender (hspends hsender)
      by_cases hreceiver : receiver = .zero
      · subst hreceiver
        simp [change_zero, hsender, hspend]
      · -- the receiver's balance is read behind the sender's, which may be the same one
        have hfits : ((m.change sender (·.satSub value)).balanceOf receiver).toNat + value.toNat
            ≤ Amount.max.toNat := by
          by_cases hself : receiver = sender
          · subst hself
            have hlt := (m.balanceOf receiver).toNat_lt
            have hspends := hspends hsender
            rw [balanceOf_change_self m hreceiver, Amount.toNat_satSub, Amount.toNat_max]
            omega
          · rw [balanceOf_change_of_ne m hself]
            exact hreceives hreceiver hself
        have hreceive := supply_receive hreceiver hfits
        simp [hsender, hreceiver, hreceive, hspend]
  | _ => rfl

theorem supply_movedAll {l : List Event} (h : m.CoversAll l) :
    (m.movedAll l).supply + Event.totalBurnt l = m.supply + Event.totalMinted l := by
  induction l generalizing m with
  | nil => rfl
  | cons e l ih =>
    obtain ⟨he, hl⟩ := h
    have hstep := supply_moved he
    have hrest := ih hl
    rw [movedAll, List.foldl_cons, ← movedAll, Event.totalBurnt, Event.totalMinted, List.map_cons,
      List.map_cons, List.sum_cons, List.sum_cons, ← Event.totalBurnt, ← Event.totalMinted]
    omega

end AddressMap

namespace EventAggregator

/-- Balances are conserved: behind a window whose transfers are covered by the balances that they
meet, the tracked balances sum up to those before it, and what was minted, less what was burnt. -/
theorem supply_conserved {a : EventAggregator} {s : AggregateState} {events : List Event}
    {ledgers : List LedgerRecord} {r : AppliedWindow}
    (happly : a.apply s events ledgers = .ok r)
    (hcovers : s.holderBalances.CoversAll (Event.ordered events)) :
    (r.state.holderBalances.supply : Int)
      = s.holderBalances.supply + Event.totalMinted (Event.ordered events)
        - Event.totalBurnt (Event.ordered events) := by
  obtain ⟨-, rfl⟩ := apply_eq_ok_iff.1 happly
  have hsupply := AddressMap.supply_movedAll hcovers
  rw [holderBalances_window]
  omega

/-- Of a hundred minted tokens the first holder sends forty to the second one and ten to itself.
The second one burns all it has and has seven minted anew; one event is given twice, and tokens
that go from the zero address to itself are none. -/
def movingEvents : List Event :=
  [⟨2, 0, .transfer (.ofNat 1) (.ofNat 1) (.ofUInt64 10)⟩,
    ⟨1, 0, .transfer .zero (.ofNat 1) (.ofUInt64 100)⟩,
    ⟨1, 1, .transfer (.ofNat 1) (.ofNat 2) (.ofUInt64 40)⟩,
    ⟨1, 0, .transfer .zero (.ofNat 1) (.ofUInt64 100)⟩,
    ⟨2, 1, .transfer (.ofNat 2) .zero (.ofUInt64 40)⟩,
    ⟨2, 2, .transfer .zero .zero (.ofUInt64 5)⟩,
    ⟨3, 0, .transfer .zero (.ofNat 2) (.ofUInt64 7)⟩,
    ⟨3, 1, .transfer (.ofNat 3) (.ofNat 2) .zero⟩]

theorem ordered_movingEvents : Event.ordered movingEvents =
    [⟨1, 0, .transfer .zero (.ofNat 1) (.ofUInt64 100)⟩,
      ⟨1, 1, .transfer (.ofNat 1) (.ofNat 2) (.ofUInt64 40)⟩,
      ⟨2, 0, .transfer (.ofNat 1) (.ofNat 1) (.ofUInt64 10)⟩,
      ⟨2, 1, .transfer (.ofNat 2) .zero (.ofUInt64 40)⟩,
      ⟨2, 2, .transfer .zero .zero (.ofUInt64 5)⟩,
      ⟨3, 0, .transfer .zero (.ofNat 2) (.ofUInt64 7)⟩,
      ⟨3, 1, .transfer (.ofNat 3) (.ofNat 2) .zero⟩] := by cbv

theorem supply_conserved_movingEvents :
    ∃ r, (EventAggregator.ofConstants .standard 1).apply (.empty .parachain) movingEvents []
        = .ok r ∧
      (AggregateState.empty .parachain).holderBalances.CoversAll (Event.ordered movingEvents) ∧
      (r.state.holderBalances.supply : Int) = 0 + 107 - 40 := by
  have hcheck : checkWindow (.empty .parachain) movingEvents = .ok () := by
    rw [checkWindow, ordered_movingEvents]
    decide +kernel
  have happly := apply_of_checkWindow (.ofConstants .standard 1) [] hcheck
  have hcovers : (AggregateState.empty .parachain).holderBalances.CoversAll
      (Event.ordered movingEvents) := by
    rw [ordered_movingEvents]
    decide +kernel
  refine ⟨_, happly, hcovers, (supply_conserved happly hcovers).trans ?_⟩
  rw [ordered_movingEvents]
  rfl

end EventAggregator
end StakingIndexer
