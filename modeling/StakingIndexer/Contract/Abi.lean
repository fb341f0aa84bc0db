import StakingIndexer.Address
import StakingIndexer.Amount

/-!
# Arguments and results of contract calls

Values are written in words of thirty-two bytes. A list is written as an offset to its
length, behind which its items stand. Reading ignores whatever is not needed: the high
bytes of narrow values and all bytes behind the last value.
-/

namespace StakingIndexer
namespace Abi

/-- The bytes that name a function: the first four of the hash of its signature. -/
def selector (signature : String) : Bytes := (Hash.keccak256 signature.toUTF8.toList).take 4

/-- The word of a number. -/
def word (n : Nat) : Bytes := Bytes.ofNatBE 32 n

@[simp] theorem length_word (n : Nat) : (word n).length = 32 := Bytes.length_ofNatBE 32 n

def amountWord (a : Amount) : Bytes := word a.toNat

def addressWord (a : Address) : Bytes := word a.toNat

/-- The data of a call: the function and its arguments. -/
def call (signature : String) (arguments : List Bytes) : Bytes :=
  selector signature ++ arguments.flatten

/-- The word at an offset. -/
def wordAt (data : Bytes) (offset : Nat) : Option Bytes :=
  if offset + 32 ≤ data.length then some ((data.drop offset).take 32) else none

/-- The number at an offset. -/
def numberAt (data : Bytes) (offset : Nat) : Option Nat := (wordAt data offset).map Bytes.toNatBE

/-- The amount that a word of any length spells. -/
def toAmount (w : Bytes) : Amount := .clampNat (Bytes.toNatBE w)

def readAmount (data : Bytes) : Option Amount := (wordAt data 0).map toAmount

def readAddress (data : Bytes) : Option Address := (wordAt data 0).map Address.ofBytes

def readUInt64 (data : Bytes) : Option UInt64 := (numberAt data 0).map UInt64.ofNat

def readUInt8 (data : Bytes) : Option UInt8 := (numberAt data 0).map UInt8.ofNat

/-- The words of a list. -/
def readWords (data : Bytes) : Option (List Bytes) := do
  let offset ← numberAt data 0
  let length ← numberAt data offset
  if offset + 32 + 32 * length ≤ data.length then
    (List.range length).mapM fun i => wordAt data (offset + 32 + 32 * i)
  else none

def readAddresses (data : Bytes) : Option (List Address) :=
  (readWords data).map (List.map Address.ofBytes)

end Abi
end StakingIndexer
