import Mathlib
import StakingIndexer.Proofs.Database.RoundTrip

/-!
# Stored decimals are read without their fraction

A decimal is read as its integer part, which is rounded toward zero, if that is in the range of
the type. Every other decimal is refused with an error that shows it; none wraps around and none
stops at the end of the range. A negative fraction above minus one is read as zero.
-/

namespace StakingIndexer

/-- The integer part of a number, rounded toward zero. -/
def integerPart (x : ℚ) : Int := if 0 ≤ x then ⌊x⌋ else ⌈x⌉

theorem integerPart_intCast (n : Int) : integerPart n = n := by simp [integerPart]

theorem integerPart_eq_zero_iff {x : ℚ} : integerPart x = 0 ↔ -1 < x ∧ x < 1 := by
  unfold integerPart
  split_ifs with hnonneg
  · rw [Int.floor_eq_zero_iff, Set.mem_Ico]
    exact ⟨fun h => ⟨by linarith, h.2⟩, fun h => ⟨hnonneg, h.2⟩⟩
  · rw [Int.ceil_eq_zero_iff, Set.mem_Ioc]
    exact ⟨fun h => ⟨h.1, by linarith⟩, fun h => ⟨h.1, by linarith⟩⟩

theorem integerPart_div (m : Int) {n : Nat} (hn : 0 < n) : integerPart (m / n) = m.tdiv n := by
  have hn' : (0 : ℚ) < n := by exact_mod_cast hn
  unfold integerPart
  rcases le_or_gt 0 m with hnonneg | hneg
  · have hquotient : (0 : ℚ) ≤ m / n := div_nonneg (by exact_mod_cast hnonneg) hn'.le
    rw [if_pos hquotient, Rat.floor_intCast_div_natCast, Int.tdiv_eq_ediv_of_nonneg hnonneg]
  · have hquotient : ¬ (0 : ℚ) ≤ m / n := by
      rw [not_le]
      exact div_neg_of_neg_of_pos (by exact_mod_cast hneg) hn'
    rw [if_neg hquotient, Rat.ceil_intCast_div_natCast, ← Int.tdiv_eq_ediv_of_nonneg (by omega),
      Int.neg_tdiv, neg_neg]

namespace Decimal

theorem trunc_eq_integerPart (d : Decimal) : d.trunc = integerPart d.value := by
  obtain ⟨mantissa, scale⟩ := d
  cases scale with
  | ofNat s =>
    have hvalue : value ⟨mantissa, .ofNat s⟩ = mantissa / ((10 ^ s : Nat) : ℚ) := by
      simp [value, zpow_neg, div_eq_mul_inv]
    rw [hvalue, integerPart_div mantissa (by positivity)]
    rfl
  | negSucc s =>
    have hvalue : value ⟨mantissa, .negSucc s⟩ = ((mantissa * (10 ^ (s + 1) : Nat) : Int) : ℚ) := by
      have hscale : -Int.negSucc s = ((s + 1 : Nat) : Int) := rfl
      rw [value, hscale, zpow_natCast]
      push_cast
      rfl
    rw [hvalue, integerPart_intCast]
    rfl

end Decimal

namespace Column

/-- Whether a conversion gives the integer part of a decimal if that is in a range, and otherwise
an error that shows the decimal. -/
structure Truncates {α : Type} (d : Decimal) (toInt : α → Int) (low high : Int)
    (outcome : Converted α) : Prop where
  ok_iff : ∀ n, (∃ a, outcome = .ok a ∧ toInt a = n) ↔ integerPart d.value = n ∧ low ≤ n ∧ n < high
  error_iff : (∃ reason, outcome = .error (.conversion (d.toText ++ reason))) ↔
    ¬ (low ≤ integerPart d.value ∧ integerPart d.value < high)

theorem Truncates.of_ok {α : Type} {d : Decimal} {toInt : α → Int} {low high : Int}
    {outcome : Converted α} (hok : ∀ a, outcome = .ok a ↔ d.trunc = toInt a)
    (hrange : ∀ n, (∃ a, toInt a = n) ↔ low ≤ n ∧ n < high)
    (herror : ∀ e, outcome = .error e → ∃ reason, e = .conversion (d.toText ++ reason)) :
    Truncates d toInt low high outcome := by
  rw [Decimal.trunc_eq_integerPart] at hok
  constructor
  · intro n
    rw [← hrange n]
    constructor
    · rintro ⟨a, ha, rfl⟩
      exact ⟨(hok a).1 ha, a, rfl⟩
    · rintro ⟨hn, a, rfl⟩
      exact ⟨a, (hok a).2 hn, rfl⟩
  · rw [← hrange]
    constructor
    · rintro ⟨reason, hreason⟩ ⟨a, ha⟩
      rw [(hok a).2 ha.symm] at hreason
      cases hreason
    · intro hnone
      cases houtcome : outcome with
      | ok a => exact absurd ⟨a, ((hok a).1 houtcome).symm⟩ hnone
      | error e =>
        obtain ⟨reason, rfl⟩ := herror e houtcome
        exact ⟨reason, rfl⟩

theorem exists_amount_iff (n : Int) :
    (∃ a : Amount, (a.toNat : Int) = n) ↔ 0 ≤ n ∧ n < 2 ^ 256 := by
  have hsize : Amount.size = 2 ^ 256 := by decide
  constructor
  · rintro ⟨a, rfl⟩
    have hlt := a.toNat_lt
    omega
  · rintro ⟨hnonneg, hlt⟩
    exact ⟨⟨n.toNat, by omega⟩, Int.toNat_of_nonneg hnonneg⟩

theorem exists_signed_iff (n : Int) :
    (∃ a : SignedAmount, a.toInt = n) ↔ -2 ^ 255 ≤ n ∧ n < 2 ^ 255 := by
  have hsize : SignedAmount.size = 2 ^ 255 := by decide
  constructor
  · rintro ⟨a, rfl⟩
    have hle := a.le_toInt
    have hlt := a.toInt_lt
    omega
  · rintro ⟨hle, hlt⟩
    exact ⟨⟨n, by omega, by omega⟩, rfl⟩

theorem decimalAmount_error {d : Decimal} {e : DatabaseError} (h : decimalAmount d = .error e) :
    ∃ reason, e = .conversion (d.toText ++ reason) := by
  rw [decimalAmount_eq] at h
  split_ifs at h
  · cases h
    exact ⟨_, congrArg DatabaseError.conversion String.append_assoc⟩
  · cases hread : Amount.ofNat? d.trunc.toNat <;> rw [hread] at h <;> cases h
    exact ⟨_, congrArg DatabaseError.conversion String.append_assoc⟩

theorem decimalSigned_error {d : Decimal} {e : DatabaseError} (h : decimalSigned d = .error e) :
    ∃ reason, e = .conversion (d.toText ++ reason) := by
  rw [decimalSigned_eq] at h
  cases hread : SignedAmount.ofInt? d.trunc <;> rw [hread] at h <;> cases h
  exact ⟨_, congrArg DatabaseError.conversion String.append_assoc⟩

theorem decimals_truncated (d : Decimal) :
    Truncates d (fun a : Amount => a.toNat) 0 (2 ^ 256) (decimalAmount d) ∧
      Truncates d SignedAmount.toInt (-2 ^ 255) (2 ^ 255) (decimalSigned d) ∧
      (decimalAmount d = .ok .zero ↔ -1 < d.value ∧ d.value < 1) ∧
      (decimalSigned d = .ok .zero ↔ -1 < d.value ∧ d.value < 1) := by
  refine ⟨?_, ?_, ?_, ?_⟩
  · exact .of_ok (fun _ => decimalAmount_eq_ok_iff) exists_amount_iff fun _ => decimalAmount_error
  · exact .of_ok (fun _ => decimalSigned_eq_ok_iff) exists_signed_iff fun _ => decimalSigned_error
  · rw [decimalAmount_eq_ok_iff, Decimal.trunc_eq_integerPart]
    exact integerPart_eq_zero_iff
  · rw [decimalSigned_eq_ok_iff, Decimal.trunc_eq_integerPart]
    exact integerPart_eq_zero_iff

-- Minus nine tenths is read as zero, and minus one is refused.
example : decimalAmount ⟨-9, 1⟩ = .ok .zero ∧
    decimalAmount ⟨-10, 1⟩ = .error (.conversion "-1.0 is not a u256: invalid digit: -") := by
  decide

end Column
end StakingIndexer
