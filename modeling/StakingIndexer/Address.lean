import StakingIndexer.Hash.Keccak

/-!
# Contract addresses

An address is a number of 160 bits, so that the order of addresses is the order
of numbers. Its text has forty hexadecimal digits; in rows and labels the letters
carry a checksum in their case.
-/

namespace StakingIndexer

/-- The number of addresses, which have 160 bits. -/
abbrev Address.size : Nat := 1 <<< 160

/-- A contract or account address of the parachain. -/
structure Address where
  toNat : Nat
  toNat_lt : toNat < Address.size
deriving DecidableEq

namespace Address

@[ext] theorem ext {a b : Address} (h : a.toNat = b.toNat) : a = b := by
  cases a; cases b; cases h; rfl

/-- The address that stands for minting and burning. -/
def zero : Address := ⟨0, by decide⟩

instance : Inhabited Address := ⟨zero⟩

instance : LT Address := ⟨fun a b => a.toNat < b.toNat⟩
instance : LE Address := ⟨fun a b => a.toNat ≤ b.toNat⟩
instance (a b : Address) : Decidable (a < b) := inferInstanceAs (Decidable (a.toNat < b.toNat))
instance (a b : Address) : Decidable (a ≤ b) := inferInstanceAs (Decidable (a.toNat ≤ b.toNat))

/-- The address spelled by the last twenty bytes of a number. -/
def ofNat (n : Nat) : Address := ⟨n % size, Nat.mod_lt _ (by decide)⟩

def bytes (a : Address) : Bytes := Bytes.ofNatBE 20 a.toNat

def ofBytes (bs : Bytes) : Address := ofNat (Bytes.toNatBE bs)

/-- The mark `0x` and forty lower-case digits. -/
def toHex (a : Address) : String := Bytes.toHex a.bytes

/-- Capitalise the letters whose digit of the digest is at least eight. -/
def capitalise : List Char → List Char → List Char
  | c :: cs, d :: ds =>
    (if 8 ≤ (Bytes.hexValue d).getD 0 then c.toUpper else c) :: capitalise cs ds
  | cs, _ => cs

/-- The text in which the case of the letters spells a checksum. -/
def toChecksum (a : Address) : String :=
  let digits := Bytes.toHexDigits a.bytes
  let digest := Hash.keccak256 (digits.map fun c => UInt8.ofNat c.toNat)
  String.ofList ('0' :: 'x' :: capitalise digits (Bytes.toHexDigits digest))

/-- Read forty digits of either case behind an optional mark. The case is not checked. -/
def parse? (s : String) : Option Address :=
  let digits := match s.toList with
    | '0' :: 'x' :: rest | '0' :: 'X' :: rest => rest
    | cs => cs
  if digits.length = 40 then (Bytes.ofHexDigits digits).map ofBytes else none

end Address
end StakingIndexer
