import Mathlib
import StakingIndexer.Decimal.Integer

/-!
# Integers are read from their decimal text

The text of an integer is read as the integer, if it is in range. A negative one fails as an
amount at its sign, and one that is too large at its digits; a signed amount fails in one way.
-/

namespace StakingIndexer

namespace Decimal

theorem digitsValue_toDigits (n : Nat) : digitsValue 0 (Nat.toDigits 10 n) = n := by
  have hvalue := Nat.ofDigitChars_ten_toDigits (n := n)
  rw [Nat.ofDigitChars_eq_foldl] at hvalue
  calc
    digitsValue 0 (Nat.toDigits 10 n)
        = (Nat.toDigits 10 n).foldl (fun acc c => 10 * acc + (c.toNat - '0'.toNat)) 0 := by
      simp only [digitsValue, Nat.mul_comm]
      rfl
    _ = n := hvalue

theorem isDigit_of_mem_toDigits {n : Nat} {c : Char} (h : c ∈ Nat.toDigits 10 n) :
    c.isDigit = true :=
  Nat.isDigit_of_mem_toDigits (by decide) le_rfl h

theorem readSign_toDigits (n : Nat) : readSign (Nat.toDigits 10 n) = (1, Nat.toDigits 10 n) := by
  have hdigits (c : Char) (hc : c ∈ Nat.toDigits 10 n) : c.isDigit = true :=
    isDigit_of_mem_toDigits hc
  cases hcs : Nat.toDigits 10 n with
  | nil => rfl
  | cons c cs =>
    have hc := hdigits c (hcs ▸ List.mem_cons_self)
    unfold readSign
    split
    · next heq => cases heq; cases hc
    · next heq => cases heq; cases hc
    · rfl

theorem toText_ofInt (n : Int) :
    (ofInt n).toText = (if n < 0 then "-" else "") ++ toString n.natAbs := by
  change _ ++ String.ofList (toString n.natAbs).toList = _
  rw [String.ofList_toList]
  rfl

theorem toList_toText_ofNat (n : Nat) : (ofInt n).toText.toList = Nat.toDigits 10 n := by
  have hnonneg : ¬ (n : Int) < 0 := Int.not_lt.2 (Int.natCast_nonneg n)
  rw [toText_ofInt, if_neg hnonneg]
  simp

theorem toList_toText_of_neg {n : Int} (h : n < 0) :
    (ofInt n).toText.toList = '-' :: Nat.toDigits 10 n.natAbs := by
  rw [toText_ofInt, if_pos h]
  simp

theorem withScale_zero (d : Decimal) : d.withScale 0 = ofInt d.trunc := by
  obtain ⟨mantissa, scale⟩ := d
  cases scale with
  | ofNat s => simp [withScale, trunc, ofInt]
  | negSucc s => simp [withScale, trunc, ofInt, Int.negSucc_lt_zero]

end Decimal

open Decimal

namespace Amount

theorem ofDigits_toDigits (n : Nat) :
    ofDigits (Nat.toDigits 10 n) = (ofNat? n).elim (.error .tooLarge) .ok := by
  have hdigits (c : Char) (hc : c ∈ Nat.toDigits 10 n) : c.isDigit = true :=
    isDigit_of_mem_toDigits hc
  rw [ofDigits, List.takeWhile_eq_self_iff.2 hdigits, digitsValue_toDigits,
    List.dropWhile_eq_nil_iff.2 hdigits]
  cases ofNat? n <;> rfl

/-- An amount has no sign, whatever stands behind it. -/
theorem ofDigits_minus (cs : List Char) : ofDigits ('-' :: cs) = .error (.invalidDigit '-') := rfl

theorem ofDigits_toText (n : Int) :
    ofDigits (Decimal.ofInt n).toText.toList
      = if n < 0 then .error (.invalidDigit '-')
        else (ofNat? n.toNat).elim (.error .tooLarge) .ok := by
  split_ifs with hneg
  · rw [toList_toText_of_neg hneg, ofDigits_minus]
  · obtain ⟨m, rfl⟩ := Int.eq_ofNat_of_zero_le (Int.not_lt.1 hneg)
    rw [toList_toText_ofNat, ofDigits_toDigits, Int.toNat_natCast]

end Amount

namespace SignedAmount

theorem ofInt?_eq_none {n : Int} (h : Amount.size ≤ n.natAbs) : ofInt? n = none := by
  have hsize : 2 * size = Amount.size := by decide
  rw [ofInt?, dif_neg]
  omega

theorem ofDigits_of_readSign {cs : List Char} {sign : Int} {m : Nat} (hsign : sign.natAbs = 1)
    (h : readSign cs = (sign, Nat.toDigits 10 m)) :
    ofDigits cs = (ofInt? (sign * m)).elim (.error .signedTooLarge) .ok := by
  rw [ofDigits, h]
  dsimp only
  rw [Amount.ofDigits_toDigits, Amount.ofNat?]
  split_ifs with hm
  · cases hread : ofInt? (sign * m) <;> simp [hread]
  · have hmagnitude : Amount.size ≤ (sign * m).natAbs := by
      rw [Int.natAbs_mul, hsign, Int.natAbs_natCast, Nat.one_mul]
      exact Nat.not_lt.1 hm
    rw [ofInt?_eq_none hmagnitude]
    rfl

theorem ofDigits_toText (n : Int) :
    ofDigits (Decimal.ofInt n).toText.toList = (ofInt? n).elim (.error .signedTooLarge) .ok := by
  rcases lt_or_ge n 0 with hneg | hnonneg
  · have hread : readSign ('-' :: Nat.toDigits 10 n.natAbs) = (-1, Nat.toDigits 10 n.natAbs) := rfl
    have hvalue : -1 * (n.natAbs : Int) = n := by omega
    rw [toList_toText_of_neg hneg, ofDigits_of_readSign rfl hread, hvalue]
  · obtain ⟨m, rfl⟩ := Int.eq_ofNat_of_zero_le hnonneg
    rw [toList_toText_ofNat, ofDigits_of_readSign rfl (readSign_toDigits m), Int.one_mul]

end SignedAmount
end StakingIndexer
