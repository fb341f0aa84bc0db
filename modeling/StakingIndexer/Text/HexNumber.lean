import StakingIndexer.Bytes

/-!
# Words in hexadecimal digits

A 64-bit word is read digit by digit, and the first digit that is foreign or exceeds the
range decides the error.
-/

namespace StakingIndexer
namespace HexNumber

/-- Why digits spell no word. -/
inductive ParseError where
  | empty
  | invalidDigit
  | tooLarge
deriving DecidableEq

namespace ParseError

def message : ParseError → String
  | empty => "cannot parse integer from empty string"
  | invalidDigit => "invalid digit found in string"
  | tooLarge => "number too large to fit in target type"

end ParseError

/-- Append digits to the word read so far. -/
def readDigits (acc : Nat) : List Char → Except ParseError UInt64
  | [] => .ok (UInt64.ofNat acc)
  | c :: cs =>
    match Bytes.hexValue c with
    | none => .error .invalidDigit
    | some d =>
      if 16 * acc + d < UInt64.size then readDigits (16 * acc + d) cs else .error .tooLarge

/-- Read digits behind an optional plus sign. -/
def parse : List Char → Except ParseError UInt64
  | [] => .error .empty
  | ['+'] => .error .invalidDigit
  | '+' :: cs => readDigits 0 cs
  | cs => readDigits 0 cs

end HexNumber
end StakingIndexer
