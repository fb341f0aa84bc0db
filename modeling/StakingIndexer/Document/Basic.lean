import StakingIndexer.Address
import StakingIndexer.Amount
import StakingIndexer.Chain
import StakingIndexer.Decimal.Nearest
import StakingIndexer.Json

/-!
# Documents of records

Records are written as JSON objects that leave out what has its default value, and are
read from objects in which a missing or null field has its default. A float is written
as the sixteen hexadecimal digits of its bits.
-/

namespace StakingIndexer
namespace Document

/-- The fields of a document that is being written. -/
abbrev Fields := List (String × Json)

def amount (a : Amount) : Json := .string a.toDecimal
def signed (a : SignedAmount) : Json := .string a.toDecimal
def word (n : UInt64) : Json := .nat n.toNat
def int64 (n : Int64) : Json := .int n.toInt
def address (a : Address) : Json := .string a.toHex
def bytes (bs : Bytes) : Json := .string (Bytes.toHex bs)
def text (s : String) : Json := .string s

/-- The bits of a float; every value that is no number is written alike. -/
def float (x : Float) : Json :=
  if x.isNaN then .string "nan"
  else .string (String.ofList (Bytes.toHexDigits (Bytes.ofNatBE 8 x.toBits.toNat)))

/-- A value or null. -/
def orNull {α : Type} (write : α → Json) : Option α → Json
  | some v => write v
  | none => .null

/-- A field that is left out if it has its default. -/
def omitIf (isDefault : Bool) (name : String) (value : Json) : Fields :=
  if isDefault then [] else [(name, value)]

def amountField (name : String) (a : Amount) : Fields := omitIf a.isZero name (amount a)

def wordField (name : String) (n : UInt64) : Fields := omitIf (n == 0) name (word n)

def floatField (name : String) (x : Float) : Fields := omitIf (x.toBits == 0) name (float x)

def textField (name : String) (s : String) : Fields := omitIf s.isEmpty name (text s)

def optionField {α : Type} (name : String) (write : α → Json) : Option α → Fields
  | some v => [(name, write v)]
  | none => []

def listField {α : Type} (name : String) (write : α → Json) (l : List α) : Fields :=
  omitIf l.isEmpty name (.array (l.map write))

/-- A document that is being read; a value outside of the expected form is no document. -/
abbrev Read (α : Type) := Json → Option α

/-- A field that is present and not null. -/
def given? (j : Json) (name : String) : Option Json :=
  (j.field? name).bind fun v => if v.isNull then none else some v

/-- Read a field, or take a default for a missing one. -/
def get {α : Type} (read : Read α) (default : α) (j : Json) (name : String) : Option α :=
  match given? j name with
  | some v => read v
  | none => some default

/-- Read a field that may be missing. -/
def getOption {α : Type} (read : Read α) (j : Json) (name : String) : Option (Option α) :=
  match given? j name with
  | some v => (read v).map some
  | none => some none

/-- Read every item of a list. -/
def readList {α : Type} (read : Read α) : Read (List α) := fun j =>
  j.items?.bind fun items => items.mapM read

/-- Read a list that may be missing. -/
def getList {α : Type} (read : Read α) (j : Json) (name : String) : Option (List α) :=
  get (readList read) [] j name

def readNat : Read Nat := fun j => j.int?.bind fun n => if 0 ≤ n then some n.toNat else none
def readWord : Read UInt64 := fun j => (readNat j).map UInt64.ofNat
def readInt64 : Read Int64 := fun j => j.int?.map Int64.ofInt
def readText : Read String := Json.string?
def readBool : Read Bool := Json.bool?

/-- An integer as a number or as decimal text. -/
def readInteger : Read Int := fun j =>
  match j with
  | .string s => s.toInt?
  | _ => j.int?

def readAmount : Read Amount := fun j =>
  (readInteger j).bind fun n => if 0 ≤ n then Amount.ofNat? n.toNat else none

def readSigned : Read SignedAmount := fun j => (readInteger j).bind SignedAmount.ofInt?

/-- A number, or the name of a value that has no digits. -/
def readFloat : Read Float
  | .number digits => Decimal.floatOfText? digits
  | .string "nan" => some (0.0 / 0.0)
  | .string "inf" => some (1.0 / 0.0)
  | .string "-inf" => some (-1.0 / 0.0)
  | _ => none

def readBytes : Read Bytes := fun j => j.string?.bind Bytes.ofHex

def readAddress : Read Address := fun j => j.string?.bind Address.parse?

def readChain : Read Chain := fun j => j.string?.bind Chain.parse?
def readTarget : Read TargetId := fun j => j.string?.bind TargetId.parse?

def getNat (j : Json) (name : String) (default : Nat := 0) : Option Nat :=
  get readNat default j name
def getWord (j : Json) (name : String) (default : UInt64 := 0) : Option UInt64 :=
  get readWord default j name
def getAmount : Json → String → Option Amount := get readAmount .zero
def getText : Json → String → Option String := get readText ""
def getAddress : Json → String → Option Address := get readAddress .zero
def getChain : Json → String → Option Chain := get readChain .parachain
def getFloat (j : Json) (name : String) (default : Float := 0.0) : Option Float :=
  get readFloat default j name

/-- A window as a pair of blocks. -/
def window (w : BlockWindow) : Json := .array [word w.first, word w.last]

def readWindow : Read BlockWindow := fun j =>
  match j with
  | .array [a, b] => do return ⟨← readWord a, ← readWord b⟩
  | _ => none

end Document
end StakingIndexer
