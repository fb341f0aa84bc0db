import Mathlib
import StakingIndexer.Database.Column
import StakingIndexer.Proofs.Decimal.Integer

/-!
# Reading columns back

What is stored of a value is read back as the value. The one condition is on words, which are
stored as signed words.
-/

namespace StakingIndexer

namespace Word

/-- Whether a word is a signed word as well. -/
def Fits (n : UInt64) : Prop := n.toNat < 2 ^ 63

instance (n : UInt64) : Decidable (Fits n) := inferInstanceAs (Decidable (_ < _))

theorem toInt_toInt64 {n : UInt64} (h : Fits n) : n.toInt64.toInt = n.toNat := by
  rw [Int64.toInt, UInt64.toBitVec_toInt64, BitVec.toInt_eq_toNat_of_lt]
  · rfl
  · unfold Fits at h
    change 2 * n.toNat < 2 ^ 64
    omega

theorem signed?_eq_some_iff {n : Int} {i : Int64} : signed? n = some i ↔ i.toInt = n := by
  have hle := i.le_toInt
  have hlt := i.toInt_lt
  have hmin : Int64.minValue.toInt = -2 ^ 63 := rfl
  have hmax : Int64.maxValue.toInt = 2 ^ 63 - 1 := rfl
  unfold signed?
  constructor
  · intro h
    split_ifs at h with hrange
    cases h
    rw [Int64.toInt_ofInt, Int.bmod_eq_of_le]
    · rw [Int64.size]
      omega
    · rw [Int64.size]
      omega
  · rintro rfl
    rw [if_pos (by omega), Int64.ofInt_toInt]

theorem signed?_toNat {n : UInt64} (h : Fits n) : signed? n.toNat = some n.toInt64 :=
  signed?_eq_some_iff.2 (toInt_toInt64 h)

theorem fits_of_signed? {n : UInt64} {i : Int64} (h : signed? n.toNat = some i) : Fits n := by
  have hlt := i.toInt_lt
  rw [signed?_eq_some_iff.1 h] at hlt
  unfold Fits
  omega

theorem unsigned?_toInt64 {n : UInt64} (h : Fits n) : unsigned? n.toInt64 = some n := by
  have hle : (0 : Int64) ≤ n.toInt64 := by
    rw [Int64.le_iff_toInt_le, toInt_toInt64 h]
    exact Int.natCast_nonneg _
  rw [unsigned?, if_pos hle, UInt64.toUInt64_toInt64]

theorem toInt64_lt_iff {m n : UInt64} (hm : Fits m) (hn : Fits n) :
    m.toInt64 < n.toInt64 ↔ m < n := by
  rw [Int64.lt_iff_toInt_lt, toInt_toInt64 hm, toInt_toInt64 hn, UInt64.lt_iff_toNat_lt]
  omega

end Word

theorem Chain.parse?_name (c : Chain) : Chain.parse? c.name = some c := by cases c <;> decide

theorem TargetId.parse?_name (t : TargetId) : TargetId.parse? t.name = some t := by
  cases t <;> decide

theorem Chain.name_inj {c d : Chain} : c.name = d.name ↔ c = d := by
  cases c <;> cases d <;> decide

theorem TargetId.name_inj {t u : TargetId} : t.name = u.name ↔ t = u := by
  cases t <;> cases u <;> decide

@[simp] theorem Decimal.trunc_ofInt (n : Int) : (Decimal.ofInt n).trunc = n := by
  simp [Decimal.trunc, Decimal.ofInt, Decimal.weight]

namespace Column

theorem ofWord_of_fits {n : UInt64} (h : Word.Fits n) : ofWord n = .ok n.toInt64 := by
  rw [ofWord, Word.signed?_toNat h]

theorem ofWord_eq_ok {n : UInt64} {i : Int64} (h : ofWord n = .ok i) :
    Word.Fits n ∧ i = n.toInt64 := by
  unfold ofWord at h
  cases hsigned : Word.signed? n.toNat with
  | none => rw [hsigned] at h; cases h
  | some j =>
    have hfits := Word.fits_of_signed? hsigned
    rw [hsigned] at h
    rw [Word.signed?_toNat hfits] at hsigned
    cases h
    cases hsigned
    exact ⟨hfits, rfl⟩

@[simp] theorem toWord_toInt64 {n : UInt64} (h : Word.Fits n) : toWord n.toInt64 = .ok n := by
  rw [toWord, Word.unsigned?_toInt64 h]

@[simp] theorem toChain_name (c : Chain) : toChain c.name = .ok c := by
  rw [toChain, c.parse?_name]

@[simp] theorem toTarget_name (t : TargetId) : toTarget t.name = .ok t := by
  rw [toTarget, t.parse?_name]

@[simp] theorem toStatus_code (s : LedgerStatus) : toStatus s.code = .ok s := by
  have hnonneg : (0 : Int) ≤ s.code := Int.natCast_nonneg _
  rw [toStatus, if_pos hnonneg, Int.toNat_natCast, LedgerStatus.ofCode?_code]

theorem eq_error_of_map {α β : Type} {c : Converted α} {f : α → β} {e : DatabaseError}
    (h : c.map f = .error e) : c = .error e := by
  cases c with
  | error e' => exact congrArg Except.error (Except.error.inj h)
  | ok a => cases h

def notAmount (d : Decimal) (error : Amount.TextError) : DatabaseError :=
  .conversion (d.toText ++ " is not a u256: " ++ error.message)

def notSigned (d : Decimal) (error : Amount.TextError) : DatabaseError :=
  .conversion (d.toText ++ " is not an i256: " ++ error.message)

theorem decimalAmount_eq (d : Decimal) :
    decimalAmount d
      = if d.trunc < 0 then .error (notAmount d (.invalidDigit '-'))
        else (Amount.ofNat? d.trunc.toNat).elim (.error (notAmount d .tooLarge)) .ok := by
  rw [decimalAmount, Decimal.withScale_zero, Amount.ofDigits_toText]
  split_ifs
  · rfl
  · cases Amount.ofNat? d.trunc.toNat <;> rfl

theorem decimalSigned_eq (d : Decimal) :
    decimalSigned d
      = (SignedAmount.ofInt? d.trunc).elim (.error (notSigned d .signedTooLarge)) .ok := by
  rw [decimalSigned, Decimal.withScale_zero, SignedAmount.ofDigits_toText]
  cases SignedAmount.ofInt? d.trunc <;> rfl

theorem decimalAmount_eq_ok_iff {d : Decimal} {a : Amount} :
    decimalAmount d = .ok a ↔ d.trunc = a.toNat := by
  have hlt := a.toNat_lt
  rw [decimalAmount_eq, Amount.ofNat?]
  split_ifs with hneg hsize
  · exact iff_of_false (by simp) (by omega)
  · rw [Option.elim_some, Except.ok.injEq, Amount.ext_iff]
    dsimp only
    omega
  · exact iff_of_false (by simp) (by omega)

theorem decimalSigned_eq_ok_iff {d : Decimal} {a : SignedAmount} :
    decimalSigned d = .ok a ↔ d.trunc = a.toInt := by
  have hle := a.le_toInt
  have hlt := a.toInt_lt
  rw [decimalSigned_eq, SignedAmount.ofInt?]
  split_ifs with hsize
  · rw [Option.elim_some, Except.ok.injEq, SignedAmount.ext_iff]
  · exact iff_of_false (by simp) (by omega)

@[simp] theorem toAmount_ofAmount (a : Amount) : toAmount (.ofAmount a) = .ok a := by
  change decimalAmount (.ofInt a.toNat) = .ok a
  exact decimalAmount_eq_ok_iff.2 (Decimal.trunc_ofInt _)

@[simp] theorem toSigned_ofSigned (a : SignedAmount) : toSigned (.ofSigned a) = .ok a := by
  change decimalSigned (.ofInt a.toInt) = .ok a
  exact decimalSigned_eq_ok_iff.2 (Decimal.trunc_ofInt _)

end Column
end StakingIndexer
