import StakingIndexer.Bytes
import StakingIndexer.Decimal.Basic

/-!
# JSON values

The values that nodes answer with, and their text without blanks. Fields of an object
stand in the order in which they are given, and a number is kept as it is written.
-/

namespace StakingIndexer

inductive Json where
  | null
  | bool (value : Bool)
  | number (digits : String)
  | string (value : String)
  | array (items : List Json)
  | object (fields : List (String × Json))

namespace Json

instance : Inhabited Json := ⟨null⟩

def nat (n : Nat) : Json := number (toString n)

def int (n : Int) : Json := number (toString n)

/-- A field of an object; the last one of a name counts. -/
def field? (j : Json) (name : String) : Option Json :=
  match j with
  | object fields => (fields.reverse.find? (·.1 == name)).map (·.2)
  | _ => none

def string? : Json → Option String
  | string s => some s
  | _ => none

def bool? : Json → Option Bool
  | bool b => some b
  | _ => none

def items? : Json → Option (List Json)
  | array items => some items
  | _ => none

def fields? : Json → Option (List (String × Json))
  | object fields => some fields
  | _ => none

/-- A whole number without point and exponent. -/
def int? : Json → Option Int
  | number digits => digits.toInt?
  | _ => none

def isNull : Json → Bool
  | null => true
  | _ => false

/-- A character within a JSON string. -/
def escape (c : Char) : List Char :=
  if c = '"' ∨ c = '\\' then ['\\', c]
  else if c = '\n' then ['\\', 'n']
  else if c = '\r' then ['\\', 'r']
  else if c = '\t' then ['\\', 't']
  else if c.toNat = 8 then ['\\', 'b']
  else if c.toNat = 12 then ['\\', 'f']
  else if c.toNat < 32 then
    ['\\', 'u', '0', '0', Bytes.hexDigit (c.toNat / 16), Bytes.hexDigit (c.toNat % 16)]
  else [c]

def quoted (s : String) : String := String.ofList ('"' :: s.toList.flatMap escape ++ ['"'])

mutual

/-- The text of a value, without blanks. -/
def render : Json → String
  | null => "null"
  | bool b => if b then "true" else "false"
  | number digits => digits
  | string s => quoted s
  | array items => "[" ++ ",".intercalate (renderItems items) ++ "]"
  | object fields => "\x7b" ++ ",".intercalate (renderFields fields) ++ "\x7d"

def renderItems : List Json → List String
  | [] => []
  | j :: rest => render j :: renderItems rest

def renderFields : List (String × Json) → List String
  | [] => []
  | (name, j) :: rest => (quoted name ++ ":" ++ render j) :: renderFields rest

end

mutual

/-- The same value with the fields of every object in ascending order of their names. -/
def sortFields : Json → Json
  | array items => array (sortItems items)
  | object fields => object ((sortValues fields).mergeSort fun a b => !(b.1 < a.1))
  | j => j

def sortItems : List Json → List Json
  | [] => []
  | j :: rest => sortFields j :: sortItems rest

def sortValues : List (String × Json) → List (String × Json)
  | [] => []
  | (name, j) :: rest => (name, sortFields j) :: sortValues rest

end
end Json
end StakingIndexer
