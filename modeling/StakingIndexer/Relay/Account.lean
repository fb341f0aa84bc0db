import StakingIndexer.Amount
import StakingIndexer.Codec.Basic

/-!
# Accounts and balances of the relay chain

An account is a public key of thirty-two bytes, and balances have 128 bits.
-/

namespace StakingIndexer

/-- The public key of an account. -/
structure AccountId where
  bytes : Bytes
  length_bytes : bytes.length = 32
deriving DecidableEq

namespace AccountId

@[ext] theorem ext {a b : AccountId} (h : a.bytes = b.bytes) : a = b := by
  cases a; cases b; cases h; rfl

def ofBytes? (bs : Bytes) : Option AccountId :=
  if h : bs.length = 32 then some ⟨bs, h⟩ else none

/-- The account spelled by the last 256 bits of a number. -/
def ofNat (n : Nat) : AccountId := ⟨Bytes.ofNatBE 32 n, Bytes.length_ofNatBE 32 n⟩

instance : Inhabited AccountId := ⟨ofNat 0⟩

def toHex (a : AccountId) : String := Bytes.toHex a.bytes

def codec : Codec AccountId where
  encode a := a.bytes
  decode bs :=
    if h : 32 ≤ bs.length then
      some (⟨bs.take 32, by simp [h]⟩, bs.drop 32)
    else none

end AccountId

/-- The number of balances of the relay chain, which have 128 bits. -/
abbrev Balance.size : Nat := 1 <<< 128

/-- A balance of the relay chain: a natural number of 128 bits. -/
structure Balance where
  toNat : Nat
  toNat_lt : toNat < Balance.size
deriving DecidableEq

namespace Balance

@[ext] theorem ext {a b : Balance} (h : a.toNat = b.toNat) : a = b := by
  cases a; cases b; cases h; rfl

def zero : Balance := ⟨0, by decide⟩

instance : Inhabited Balance := ⟨zero⟩

def ofNat? (n : Nat) : Option Balance := if h : n < size then some ⟨n, h⟩ else none

/-- The number itself, or the greatest balance when it is out of range. -/
def clampNat (n : Nat) : Balance :=
  if h : n < size then ⟨n, h⟩ else ⟨size - 1, by decide⟩

/-- A sum that stops at the greatest balance. -/
def satAdd (a b : Balance) : Balance := clampNat (a.toNat + b.toNat)

@[simp] theorem toNat_satAdd (a b : Balance) :
    (a.satAdd b).toNat = min (a.toNat + b.toNat) (size - 1) := by
  unfold satAdd clampNat
  split <;> simp <;> omega

/-- The balance as an amount. -/
def toAmount (b : Balance) : Amount := ⟨b.toNat, Nat.lt_trans b.toNat_lt (by decide)⟩

def toDecimal (b : Balance) : String := toString b.toNat

/-- Sixteen bytes, least significant first. -/
def codec : Codec Balance := (Codec.fixed 16).map clampNat toNat

/-- The fewest bytes. -/
def compactCodec : Codec Balance := (Codec.compact 16).map clampNat toNat

end Balance
end StakingIndexer
