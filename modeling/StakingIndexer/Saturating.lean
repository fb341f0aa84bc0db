/-!
# Bounded machine words

Arithmetic of 64-bit words that stops at the ends of the range, and the exact
tests for moving a number between signed and unsigned words.
-/

namespace StakingIndexer

namespace Word

/-- The greatest unsigned 64-bit word. -/
def maxU64 : UInt64 := 0xffffffffffffffff

/-- The greatest unsigned 32-bit word. -/
def maxU32 : UInt32 := 0xffffffff

/-- A sum that stops at the greatest word. -/
def satAdd (a b : UInt64) : UInt64 :=
  if a.toNat + b.toNat < UInt64.size then a + b else maxU64

/-- A difference that stops at zero. -/
def satSub (a b : UInt64) : UInt64 := if b ≤ a then a - b else 0

/-- A product that stops at the greatest word. -/
def satMul (a b : UInt64) : UInt64 :=
  if a.toNat * b.toNat < UInt64.size then a * b else maxU64

theorem toNat_satAdd (a b : UInt64) :
    (satAdd a b).toNat = min (a.toNat + b.toNat) (UInt64.size - 1) := by
  unfold satAdd
  split
  · next h => rw [UInt64.toNat_add, Nat.mod_eq_of_lt h]; omega
  · next h => simp only [maxU64, UInt64.reduceToNat, UInt64.size] at h ⊢; omega

theorem toNat_satSub (a b : UInt64) : (satSub a b).toNat = a.toNat - b.toNat := by
  unfold satSub
  split
  · next h => exact UInt64.toNat_sub_of_le _ _ h
  · next h => rw [UInt64.le_iff_toNat_le] at h; simp; omega

theorem toNat_satMul (a b : UInt64) :
    (satMul a b).toNat = min (a.toNat * b.toNat) (UInt64.size - 1) := by
  unfold satMul
  split
  · next h => rw [UInt64.toNat_mul, Nat.mod_eq_of_lt h]; omega
  · next h => simp only [maxU64, UInt64.reduceToNat, UInt64.size] at h ⊢; omega

/-- The 64-bit word of a number, if it has one. -/
def ofNat? (n : Nat) : Option UInt64 := if n < UInt64.size then some (UInt64.ofNat n) else none

/-- The sum of two words, if it is a word. -/
def checkedAdd (a b : UInt64) : Option UInt64 := ofNat? (a.toNat + b.toNat)

/-- The signed 64-bit word of an integer, if it has one. -/
def signed? (n : Int) : Option Int64 :=
  if Int64.minValue.toInt ≤ n ∧ n ≤ Int64.maxValue.toInt then some (Int64.ofInt n) else none

/-- The unsigned value of a signed word, if it is not negative. -/
def unsigned? (n : Int64) : Option UInt64 := if 0 ≤ n then some n.toUInt64 else none

end Word
end StakingIndexer
