import StakingIndexer.Decimal.Basic

/-!
# The float nearest to a decimal

A quotient of naturals is rounded to a multiple of the last place of the double in whose
range it lies, a half to the even neighbour. A sum that carries into the next power of
two, or beyond the last finite double, has the right bits of its own.
-/

namespace StakingIndexer
namespace Decimal

/-- The integer nearest to a quotient; a half goes to the even neighbour. -/
def roundDiv (num den : Nat) : Nat :=
  let n := num / den
  let twice := 2 * (num % den)
  if den < twice ∨ (twice = den ∧ n % 2 = 1) then n + 1 else n

/-- The exponent of the greatest power of two that a positive quotient reaches. -/
def binaryExponent (num den : Nat) : Int :=
  let e : Int := num.log2 - den.log2
  if num <<< (-e).toNat < den <<< e.toNat then e - 1 else e

/-- The bits of the double nearest to a quotient; infinity is above all finite doubles. -/
def nearestBits (num den : Nat) : UInt64 :=
  if num = 0 then 0
  else
    let q := max (binaryExponent num den - 52) (-1074)
    let m := roundDiv (num <<< (-q).toNat) (den <<< q.toNat)
    .ofNat (min ((q + 1074).toNat <<< 52 + m) (2047 <<< 52))

/-- The number of digits before the point, or minus the number of zeros after it. -/
def leading (d : Decimal) : Int := (toString d.mantissa.natAbs).length - d.scale

/-- The double nearest to the size of a decimal. Beyond `10 ^ 310` every decimal is nearest to
infinity, and below `10 ^ (-330)` to zero. -/
def sizeToFloat (d : Decimal) : Float :=
  if d.mantissa = 0 ∨ d.leading < -330 then 0.0
  else if 310 < d.leading then 1.0 / 0.0
  else .ofBits (nearestBits (d.mantissa.natAbs * weight (-d.scale).toNat) (weight d.scale.toNat))

/-- The double nearest to a decimal. -/
def toFloat (d : Decimal) : Float := if d.mantissa < 0 then -d.sizeToFloat else d.sizeToFloat

/-- The double nearest to decimal text, whose sign also marks a zero. -/
def floatOfText? (s : String) : Option Float :=
  (parse? s).map fun d => if s.startsWith "-" then -d.sizeToFloat else d.sizeToFloat

/-- Read decimal text, or the name of a float without digits, in letters of either case. -/
def readFloat? (s : String) : Option Float :=
  let (sign, cs) := readSign s.toList
  match String.ofList (cs.map Char.toLower) with
  | "nan" => some (0.0 / 0.0)
  | "inf" | "infinity" => some (if sign < 0 then -1.0 / 0.0 else 1.0 / 0.0)
  | _ => floatOfText? s

/-- The float that a decimal spells, unless it leaves the range of doubles. -/
def toFloatInRange? (d : Decimal) : Option Float :=
  let x := toFloat d
  if x.isInf || (x == 0 && d.mantissa ≠ 0) then none else some x

end Decimal
end StakingIndexer
