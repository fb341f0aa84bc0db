import StakingIndexer.Decimal.Basic

/-!
# The shortest decimal of a float

The fewest digits that read back as the same double, and the nearest such decimal
when several have that many. A finite double is `m * 2 ^ q`; a decimal reads back as it
exactly if it lies between the midpoints to its neighbours, which belong to it when
`m` is even.
-/

namespace StakingIndexer
namespace Decimal

/-- A positive double in quarters of its last place: the value, and the ends of the
interval that rounds to it, each times `unit`, a quotient of naturals. -/
structure Rounding where
  value : Nat
  low : Nat
  high : Nat
  closed : Bool
  unitNum : Nat
  unitDen : Nat

namespace Rounding

/-- The interval of a positive finite double, from its bits. -/
def ofBits (bits : UInt64) : Rounding :=
  let field := (bits.toNat >>> 52) % 2048
  let fraction := bits.toNat % (1 <<< 52)
  let m := if field = 0 then fraction else (1 <<< 52) + fraction
  let exponent := max field 1
  let belowHalf := if fraction = 0 ∧ 1 < field then 1 else 2
  { value := 4 * m
    low := 4 * m - belowHalf
    high := 4 * m + 2
    closed := m % 2 = 0
    unitNum := 1 <<< (exponent - 1077)
    unitDen := 1 <<< (1077 - exponent) }

/-- Whether the decimal `n * num / den` rounds to the double. -/
def holds (r : Rounding) (n num den : Nat) : Bool :=
  let x := n * num * r.unitDen
  let low := r.low * r.unitNum * den
  let high := r.high * r.unitNum * den
  if r.closed then low ≤ x && x ≤ high else low < x && x < high

/-- Twice the distance from a grid point at or below the value to the value is compared
with the step of the grid: whether the point above is the nearer one. -/
def upperIsNearer (r : Rounding) (n num den : Nat) : Bool :=
  (2 * n + 1) * num * r.unitDen < 2 * r.value * r.unitNum * den

/-- The neighbour of the value on the grid of `count` digits that rounds to it, if one does. -/
def onGrid (r : Rounding) (top : Int) (count : Nat) : Option Decimal :=
  let scale : Int := count - top
  let num := weight (-scale).toNat
  let den := weight scale.toNat
  let below := r.value * r.unitNum * den / (r.unitDen * num)
  let lower := r.holds below num den
  let upper := r.holds (below + 1) num den
  if lower && !(upper && r.upperIsNearer below num den) then some ⟨below, scale⟩
  else if upper then
    some (if below + 1 = weight count then ⟨weight (count - 1), scale - 1⟩ else ⟨below + 1, scale⟩)
  else none

/-- The number of digits before the point, or minus the number of zeros after it. -/
def top (r : Rounding) : Int :=
  (toString (r.value * r.unitNum * weight 400 / r.unitDen)).length - 400

/-- The first grid with a hit, from one digit to seventeen. -/
def shortest (r : Rounding) : Decimal :=
  ((List.range 17).findSome? fun i => r.onGrid r.top (i + 1)).getD zero

end Rounding

/-- The shortest decimal that reads back as a finite double of positive sign. -/
def ofPositiveFloat (x : Float) : Decimal :=
  if x == 0 then zero else (Rounding.ofBits x.toBits).shortest

/-- Positional text of a float: the shortest digits that read back, never an exponent,
and no point behind a whole number. -/
def floatText (x : Float) : String :=
  if x.isNaN then "NaN"
  else
    let sign := if x.toBits >>> 63 = 1 then "-" else ""
    if x.isInf then sign ++ "inf"
    else sign ++ (ofPositiveFloat x.abs).normalize.toText

end Decimal
end StakingIndexer
