import StakingIndexer.Amount

/-!
# Decimal numbers

An integer mantissa and a scale: the number `mantissa / 10 ^ scale`. The scale may be
negative. Amounts are stored as decimals and read back by dropping the fraction.
-/

namespace StakingIndexer

/-- The decimal number `mantissa / 10 ^ scale`. -/
structure Decimal where
  mantissa : Int
  scale : Int
deriving DecidableEq

namespace Decimal

/-- The weight of a digit that stands a number of places before the last one. -/
def weight (places : Nat) : Nat := Nat.pow 10 places

def ofInt (n : Int) : Decimal := ⟨n, 0⟩

def zero : Decimal := ofInt 0

instance : Inhabited Decimal := ⟨zero⟩

/-- The integer part, rounding toward zero. -/
def trunc (d : Decimal) : Int :=
  match d.scale with
  | .ofNat s => d.mantissa.tdiv (weight s)
  | .negSucc s => d.mantissa * weight (s + 1)

/-- The decimal at another scale: zeros are appended to its digits, or its last digits are
dropped. -/
def withScale (d : Decimal) (scale : Int) : Decimal :=
  if d.scale < scale then ⟨d.mantissa * weight (scale - d.scale).toNat, scale⟩
  else ⟨d.mantissa.tdiv (weight (d.scale - scale).toNat), scale⟩

/-- The same number with a scale that is not negative. -/
def normalize (d : Decimal) : Decimal :=
  match d.scale with
  | .ofNat _ => d
  | .negSucc s => ⟨d.mantissa * weight (s + 1), 0⟩

/-- The mantissas of two decimals at their greater scale, which is returned last. -/
def align (a b : Decimal) : Int × Int × Int :=
  let s := max a.scale b.scale
  (a.mantissa * weight (s - a.scale).toNat, b.mantissa * weight (s - b.scale).toNat, s)

/-- The exact sum, at the greater scale. -/
def add (a b : Decimal) : Decimal :=
  let (x, y, s) := align a b
  ⟨x + y, s⟩

/-- The exact difference, at the greater scale. -/
def sub (a b : Decimal) : Decimal := add a ⟨-b.mantissa, b.scale⟩

def le (a b : Decimal) : Bool :=
  let (x, y, _) := align a b
  x ≤ y

/-- The greater of two decimals. -/
def greatest (a b : Decimal) : Decimal := if le a b then b else a

/-- The digits of a decimal with a point before the last `scale` of them. A mantissa with
more than fifteen zeros to append is written with an exponent. -/
def toText (d : Decimal) : String :=
  let sign := if d.mantissa < 0 then "-" else ""
  let digits := (toString d.mantissa.natAbs).toList
  match d.scale with
  | .ofNat 0 => sign ++ String.ofList digits
  | .ofNat s =>
    let padded := List.replicate (s + 1 - digits.length) '0' ++ digits
    let whole := padded.length - s
    sign ++ String.ofList (padded.take whole ++ '.' :: padded.drop whole)
  | .negSucc s =>
    if s + 1 ≤ 15 then sign ++ String.ofList (digits ++ List.replicate (s + 1) '0')
    else sign ++ String.ofList digits ++ "e+" ++ toString (s + 1)

/-- The value of a run of decimal digits, continuing from `acc`. -/
def digitsValue (acc : Nat) (cs : List Char) : Nat :=
  cs.foldl (fun acc c => acc * 10 + (c.toNat - 48)) acc

/-- Split a sign off a text. -/
def readSign : List Char → Int × List Char
  | '-' :: cs => (-1, cs)
  | '+' :: cs => (1, cs)
  | cs => (1, cs)

/-- Read digits with an optional sign, point and exponent. -/
def parse? (s : String) : Option Decimal := do
  let (sign, cs) := readSign s.toList
  let whole := cs.takeWhile Char.isDigit
  let (fraction, rest) := match cs.dropWhile Char.isDigit with
    | '.' :: cs => (cs.takeWhile Char.isDigit, cs.dropWhile Char.isDigit)
    | cs => ([], cs)
  if whole.isEmpty && fraction.isEmpty then none
  let mantissa : Int := digitsValue (digitsValue 0 whole) fraction
  let exponent ← match rest with
    | [] => some 0
    | c :: cs =>
      if c = 'e' ∨ c = 'E' then
        let (sign, cs) := readSign cs
        if cs.isEmpty || !cs.all Char.isDigit then none else some (sign * (digitsValue 0 cs : Nat))
      else none
  return ⟨sign * mantissa, fraction.length - exponent⟩

end Decimal
end StakingIndexer
