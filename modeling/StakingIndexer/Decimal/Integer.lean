import StakingIndexer.Decimal.Basic

/-!
# Integers in decimal digits

An amount is read digit by digit. What is met first decides the error: a number that has grown
out of range, or a character that is no digit. A signed amount is read as a sign and a magnitude.
-/

namespace StakingIndexer

/-- Why a text spells no amount. -/
inductive Amount.TextError where
  | invalidDigit (c : Char)
  | tooLarge
  | signedTooLarge
deriving DecidableEq

def Amount.TextError.message : Amount.TextError → String
  | invalidDigit c => "invalid digit: " ++ String.singleton c
  | tooLarge => "the value is too large to fit the target type"
  | signedTooLarge => "number does not fit in the integer size"

/-- Read an amount, which has no sign. -/
def Amount.ofDigits (cs : List Char) : Except Amount.TextError Amount :=
  match ofNat? (Decimal.digitsValue 0 (cs.takeWhile Char.isDigit)) with
  | none => .error .tooLarge
  | some a =>
    match cs.dropWhile Char.isDigit with
    | [] => .ok a
    | c :: _ => .error (.invalidDigit c)

/-- Read a magnitude behind an optional sign. -/
def SignedAmount.ofDigits (cs : List Char) : Except Amount.TextError SignedAmount :=
  let (sign, cs) := Decimal.readSign cs
  match Amount.ofDigits cs with
  | .error .tooLarge => .error .signedTooLarge
  | .error error => .error error
  | .ok magnitude =>
    match ofInt? (sign * magnitude.toNat) with
    | some a => .ok a
    | none => .error .signedTooLarge

end StakingIndexer
