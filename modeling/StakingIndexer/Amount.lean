import StakingIndexer.Bytes

/-!
# Token amounts

Balances are unsigned 256-bit numbers and reported rewards are signed ones.
Both carry their range in the type, and their sums and differences stop at the
ends of it.
-/

namespace StakingIndexer

/-- The number of balances, which have 256 bits. -/
abbrev Amount.size : Nat := 1 <<< 256

/-- A balance: a natural number of 256 bits. -/
structure Amount where
  toNat : Nat
  toNat_lt : toNat < Amount.size
deriving DecidableEq

namespace Amount

@[ext] theorem ext {a b : Amount} (h : a.toNat = b.toNat) : a = b := by
  cases a; cases b; cases h; rfl

def zero : Amount := ⟨0, by decide⟩

/-- The greatest balance. -/
def max : Amount := ⟨size - 1, by decide⟩

instance : Inhabited Amount := ⟨zero⟩

/-- The balance of a number, if it is in range. -/
def ofNat? (n : Nat) : Option Amount := if h : n < size then some ⟨n, h⟩ else none

/-- The number itself, or the greatest balance when it is out of range. -/
def clampNat (n : Nat) : Amount := if h : n < size then ⟨n, h⟩ else max

/-- A machine word as a balance. -/
def ofUInt64 (n : UInt64) : Amount := ⟨n.toNat, Nat.lt_trans n.toNat_lt (by decide)⟩

/-- A sum that stops at the greatest balance. -/
def satAdd (a b : Amount) : Amount := clampNat (a.toNat + b.toNat)

/-- A difference that stops at zero. -/
def satSub (a b : Amount) : Amount :=
  ⟨a.toNat - b.toNat, Nat.lt_of_le_of_lt (Nat.sub_le _ _) a.toNat_lt⟩

def isZero (a : Amount) : Bool := a.toNat == 0

@[simp] theorem toNat_zero : zero.toNat = 0 := rfl

@[simp] theorem toNat_max : max.toNat = size - 1 := rfl

theorem toNat_clampNat (n : Nat) : (clampNat n).toNat = min n (size - 1) := by
  unfold clampNat
  split <;> simp <;> omega

@[simp] theorem toNat_satAdd (a b : Amount) :
    (a.satAdd b).toNat = min (a.toNat + b.toNat) (size - 1) := toNat_clampNat _

@[simp] theorem toNat_satSub (a b : Amount) : (a.satSub b).toNat = a.toNat - b.toNat := rfl

/-- Four 64-bit limbs of an amount, least significant first. -/
def limbs (a : Amount) : List UInt64 :=
  [0, 64, 128, 192].map fun shift => UInt64.ofNat (a.toNat >>> shift)

/-- The weight of a limb as a float. -/
def limbWeight : Float := 18446744073709551616.0

/-- The float of an amount. Limbs are accumulated from the most significant one,
each step rounding to the nearest double. -/
def toFloat (a : Amount) : Float :=
  a.limbs.reverse.foldl (fun acc limb => acc * limbWeight + limb.toFloat) 0.0

/-- The amount as a 64-bit word, or the greatest word. -/
def toUInt64Sat (a : Amount) : UInt64 :=
  if a.toNat < UInt64.size then UInt64.ofNat a.toNat else 0xffffffffffffffff

/-- Decimal digits. -/
def toDecimal (a : Amount) : String := toString a.toNat

end Amount

/-- The number of signed amounts that are not negative, or are. -/
abbrev SignedAmount.size : Nat := 1 <<< 255

/-- A reported reward or loss: an integer of 256 bits in two's complement. -/
structure SignedAmount where
  toInt : Int
  le_toInt : -SignedAmount.size ≤ toInt
  toInt_lt : toInt < SignedAmount.size
deriving DecidableEq

namespace SignedAmount

@[ext] theorem ext {a b : SignedAmount} (h : a.toInt = b.toInt) : a = b := by
  cases a; cases b; cases h; rfl

def zero : SignedAmount := ⟨0, by decide, by decide⟩

instance : Inhabited SignedAmount := ⟨zero⟩

/-- The signed amount of an integer, if it is in range. -/
def ofInt? (n : Int) : Option SignedAmount :=
  if h : -size ≤ n ∧ n < size then some ⟨n, h.1, h.2⟩ else none

/-- The absolute value, which always is an amount. -/
def magnitude (a : SignedAmount) : Amount :=
  ⟨a.toInt.natAbs, by
    have hl := a.le_toInt
    have hu := a.toInt_lt
    have hs : 2 * SignedAmount.size = Amount.size := by decide
    omega⟩

/-- The negated amount, if it is in range. -/
def neg? (a : SignedAmount) : Option SignedAmount := ofInt? (-a.toInt)

/-- The float of the magnitude, carrying the sign. -/
def toFloat (a : SignedAmount) : Float :=
  if a.toInt < 0 then -a.magnitude.toFloat else a.magnitude.toFloat

def toDecimal (a : SignedAmount) : String := toString a.toInt

end SignedAmount

/-- The signed amount of a balance, if it is below half of the balances. -/
def Amount.toSigned? (a : Amount) : Option SignedAmount := SignedAmount.ofInt? a.toNat

end StakingIndexer
