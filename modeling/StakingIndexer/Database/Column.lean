import StakingIndexer.Address
import StakingIndexer.Amount
import StakingIndexer.Decimal.Integer
import StakingIndexer.Ledger
import StakingIndexer.Saturating
import StakingIndexer.Store.Basic

/-!
# Columns of tables

Amounts are stored as decimals without bounds, words as signed words of 64 bits, and
addresses as text. A stored value may have no counterpart, which is a conversion error.
-/

namespace StakingIndexer

/-- A value of a decimal column. A special one has no digits, and no query can return it as
a decimal. -/
inductive Numeric where
  | decimal (value : Decimal)
  | special
deriving DecidableEq

namespace Numeric

def ofAmount (a : Amount) : Numeric := decimal (.ofInt a.toNat)

def ofSigned (a : SignedAmount) : Numeric := decimal (.ofInt a.toInt)

def zero : Numeric := decimal .zero

instance : Inhabited Numeric := ⟨zero⟩

def isSpecial (n : Numeric) : Bool := n = special

/-- Apply an operation on decimals; a special value stays special. -/
def combine (f : Decimal → Decimal → Decimal) : Numeric → Numeric → Numeric
  | decimal a, decimal b => decimal (f a b)
  | _, _ => special

end Numeric

namespace Column

abbrev Converted (α : Type) := Except DatabaseError α

/-- The error of a query that meets a special value. -/
def unreadable : DatabaseError := .query "value of a decimal column has no digits"

/-- The amount whose digits are left of a decimal without its fraction. -/
def decimalAmount (d : Decimal) : Converted Amount :=
  match Amount.ofDigits (d.withScale 0).toText.toList with
  | .ok a => .ok a
  | .error error => .error (.conversion (d.toText ++ " is not a u256: " ++ error.message))

/-- The signed amount whose digits are left of a decimal without its fraction. -/
def decimalSigned (d : Decimal) : Converted SignedAmount :=
  match SignedAmount.ofDigits (d.withScale 0).toText.toList with
  | .ok a => .ok a
  | .error error => .error (.conversion (d.toText ++ " is not an i256: " ++ error.message))

def toAmount : Numeric → Converted Amount
  | .decimal d => decimalAmount d
  | .special => .error unreadable

def toSigned : Numeric → Converted SignedAmount
  | .decimal d => decimalSigned d
  | .special => .error unreadable

/-- The stored form of a word. -/
def ofWord (n : UInt64) : Converted Int64 :=
  match Word.signed? n.toNat with
  | some i => .ok i
  | none => .error (.conversion "number too large to fit in target type")

/-- The word of a stored value. -/
def toWord (n : Int64) : Converted UInt64 :=
  match Word.unsigned? n with
  | some w => .ok w
  | none => .error (.conversion "number too small to fit in target type")

def toChain (s : String) : Converted Chain :=
  match Chain.parse? s with
  | some c => .ok c
  | none => .error (.conversion ("unknown chain " ++ s))

def toTarget (s : String) : Converted TargetId :=
  match TargetId.parse? s with
  | some t => .ok t
  | none => .error (.conversion ("unknown scan target " ++ s))

def toAddress (s : String) : Converted Address :=
  match Address.parse? s with
  | some a => .ok a
  | none => .error (.conversion ("invalid address " ++ s))

def toStatus (code : Int) : Converted LedgerStatus :=
  match if 0 ≤ code then LedgerStatus.ofCode? code.toNat else none with
  | some s => .ok s
  | none => .error (.conversion ("unknown ledger status " ++ toString code))

end Column
end StakingIndexer
