/-!
# Byte strings

Hexadecimal text and the little- and big-endian readings of a natural number.
A byte string is a list, so that readers can be written by structural recursion
and consume exactly what they read. The hash functions mix 64-bit words, which are read
from bytes whose first is the least significant.
-/

namespace StakingIndexer

/-- A byte string. -/
abbrev Bytes := List UInt8

namespace Bytes

/-- The `width` lowest bytes of `n`, least significant first. -/
def ofNatLE : (width n : Nat) → Bytes
  | 0, _ => []
  | width + 1, n => UInt8.ofNat n :: ofNatLE width (n / 256)

/-- The number spelled by bytes whose first is the least significant. -/
def toNatLE : Bytes → Nat
  | [] => 0
  | b :: bs => b.toNat + 256 * toNatLE bs

/-- The `width` lowest bytes of `n`, most significant first. -/
def ofNatBE (width n : Nat) : Bytes := (ofNatLE width n).reverse

/-- The number spelled by bytes whose first is the most significant. -/
def toNatBE (bs : Bytes) : Nat := bs.foldl (fun acc b => acc * 256 + b.toNat) 0

@[simp] theorem length_ofNatLE (width n : Nat) : (ofNatLE width n).length = width := by
  induction width generalizing n with
  | zero => rfl
  | succ w ih => simp [ofNatLE, ih]

@[simp] theorem length_ofNatBE (width n : Nat) : (ofNatBE width n).length = width := by
  simp [ofNatBE]

theorem ofNatLE_toNatLE (bs : Bytes) : ofNatLE bs.length (toNatLE bs) = bs := by
  induction bs with
  | nil => rfl
  | cons b bs ih =>
    have hb := b.toNat_lt
    have h1 : (b.toNat + 256 * toNatLE bs) / 256 = toNatLE bs := by omega
    have h2 : UInt8.ofNat (b.toNat + 256 * toNatLE bs) = b := by
      apply UInt8.toNat.inj
      simp only [UInt8.toNat_ofNat']
      omega
    simp [toNatLE, ofNatLE, h1, h2, ih]

/-- The hexadecimal digit of a value below sixteen, in lower case. -/
def hexDigit (n : Nat) : Char := Char.ofNat (if n < 10 then 48 + n else 87 + n)

/-- The value of a hexadecimal digit of either case. -/
def hexValue (c : Char) : Option Nat :=
  if '0' ≤ c ∧ c ≤ '9' then some (c.toNat - 48)
  else if 'a' ≤ c ∧ c ≤ 'f' then some (c.toNat - 87)
  else if 'A' ≤ c ∧ c ≤ 'F' then some (c.toNat - 55)
  else none

/-- The digits of a byte string, two for each byte. -/
def toHexDigits : Bytes → List Char
  | [] => []
  | b :: bs => hexDigit (b.toNat / 16) :: hexDigit (b.toNat % 16) :: toHexDigits bs

/-- The byte string spelled by pairs of digits, refusing an odd digit and foreign characters. -/
def ofHexDigits : List Char → Option Bytes
  | [] => some []
  | [_] => none
  | hi :: lo :: rest => do
    let h ← hexValue hi
    let l ← hexValue lo
    let bs ← ofHexDigits rest
    return UInt8.ofNat (16 * h + l) :: bs

/-- Lower-case hexadecimal text behind the mark `0x`. -/
def toHex (bs : Bytes) : String := String.ofList ('0' :: 'x' :: toHexDigits bs)

/-- Drop every leading `0x`. -/
def dropHexMarks : List Char → List Char
  | '0' :: 'x' :: rest => dropHexMarks rest
  | cs => cs

/-- Read hexadecimal text with any number of leading marks, none included. -/
def ofHex (s : String) : Option Bytes := ofHexDigits (dropHexMarks s.toList)

end Bytes

namespace Hash

/-- Rotate a word to the left by less than its width. -/
def rotateLeft (w : UInt64) (k : UInt64) : UInt64 :=
  if k = 0 then w else w <<< k ||| w >>> (64 - k)

/-- The word spelled by at most eight bytes. -/
def wordOfBytes (bs : Bytes) : UInt64 := UInt64.ofNat (Bytes.toNatLE bs)

/-- The first `n` words of a byte string, with zeros where the bytes end. -/
def words : Nat → Bytes → List UInt64
  | 0, _ => []
  | n + 1, bs => wordOfBytes (bs.take 8) :: words n (bs.drop 8)

end Hash

end StakingIndexer
