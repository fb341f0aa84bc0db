import StakingIndexer.Text.Invisible
import StakingIndexer.Bytes

/-!
# Quoted text in messages

Text and single characters between quotes, as messages show them: control characters
and invisible ones are spelled by escapes, everything else stands for itself.
-/

namespace StakingIndexer
namespace Text

/-- Hexadecimal digits of a number without leading zeros. -/
def codePoint (n : Nat) : List Char := Nat.toDigits 16 n

/-- A character within quotes. `mark` is the quote that has to be escaped. -/
def escape (mark c : Char) : List Char :=
  if c = mark ∨ c = '\\' then ['\\', c]
  else if c = '\x00' then ['\\', '0']
  else if c = '\t' then ['\\', 't']
  else if c = '\r' then ['\\', 'r']
  else if c = '\n' then ['\\', 'n']
  else if c.toNat < 32 ∨ c.toNat = 127 ∨ isInvisible c then
    ['\\', 'u', '\x7b'] ++ codePoint c.toNat ++ ['\x7d']
  else [c]

/-- Text between double quotes. -/
def quote (s : String) : String :=
  String.ofList ('"' :: s.toList.flatMap (escape '"') ++ ['"'])

/-- A character between single quotes. -/
def quoteChar (c : Char) : String := String.ofList ('\'' :: escape '\'' c ++ ['\''])

end Text
end StakingIndexer
