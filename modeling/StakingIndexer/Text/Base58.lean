import StakingIndexer.Bytes

/-!
# Base58

Bytes as digits of an alphabet of 58 characters without look-alikes. The digits are
those of the number that the bytes spell, behind one first letter for each leading
zero byte.
-/

namespace StakingIndexer
namespace Base58

def alphabet : List Char := "123456789ABCDEFGHJKLMNPQRSTUVWXYZabcdefghijkmnopqrstuvwxyz".toList

/-- Why a text is no base58. Positions count the bytes of the text. -/
inductive DecodeError where
  | invalidCharacter (c : Char) (position : Nat)
  | nonAscii (position : Nat)
deriving DecidableEq

/-- The digits of a number in a base above one, least significant first; none for zero. -/
def digits (base n : Nat) : List Nat :=
  if _h : n = 0 ∨ base < 2 then [] else n % base :: digits base (n / base)
termination_by n
decreasing_by exact Nat.div_lt_self (by omega) (by omega)

/-- The number spelled by digits, least significant first. -/
def ofDigits (base : Nat) : List Nat → Nat
  | [] => 0
  | d :: ds => d + base * ofDigits base ds

theorem ofDigits_digits {base : Nat} (hb : 2 ≤ base) (n : Nat) :
    ofDigits base (digits base n) = n := by
  induction n using Nat.strongRecOn with
  | _ n ih =>
    unfold digits
    split
    · next h =>
      rcases h with h | h
      · simp [ofDigits, h]
      · omega
    · next h =>
      rw [ofDigits, ih (n / base) (Nat.div_lt_self (by omega) (by omega))]
      exact Nat.mod_add_div n base

/-- The letter of a digit below 58. -/
def letter (d : Nat) : Char := alphabet.getD d '1'

/-- The digit of a letter. -/
def digit? (c : Char) : Option Nat := alphabet.findIdx? (· == c)

def encode (bs : Bytes) : String :=
  let zeros := bs.takeWhile (· == 0)
  let number := Bytes.toNatBE bs
  String.ofList (zeros.map (fun _ => '1') ++ (digits 58 number).reverse.map letter)

/-- The digits of a text, or the first character that is none. -/
def readDigits : (position : Nat) → List Char → Except DecodeError (List Nat)
  | _, [] => .ok []
  | position, c :: cs =>
    if 128 ≤ c.toNat then .error (.nonAscii position)
    else match digit? c with
      | none => .error (.invalidCharacter c position)
      | some d => (readDigits (position + 1) cs).map (d :: ·)

def decode (s : String) : Except DecodeError Bytes := do
  let ds ← readDigits 0 s.toList
  let zeros := ds.takeWhile (· == 0)
  let number := ofDigits 58 ds.reverse
  return zeros.map (fun _ => 0) ++ (digits 256 number).reverse.map UInt8.ofNat

end Base58
end StakingIndexer
