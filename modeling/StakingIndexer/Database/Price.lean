import StakingIndexer.Database.Column
import StakingIndexer.Decimal.Nearest
import StakingIndexer.Text.Quoted

/-!
# Tables of prices

The prices of a token are in a table of their own, one for each day. A day without price
is no error, but a missing table is. The table is named after the symbol of the token,
which is held to letters and digits.
-/

namespace StakingIndexer

/-- The symbol of a token, in lower case. -/
structure TokenSymbol where
  text : String
  isAlphanumeric : !text.isEmpty && text.toList.all Char.isAlphanum

namespace TokenSymbol

/-- Read a symbol in letters of either case. -/
def parse (s : String) : Except DatabaseError TokenSymbol :=
  let lower := s.map Char.toLower
  if h : !lower.isEmpty && lower.toList.all Char.isAlphanum then .ok ⟨lower, h⟩
  else .error (.clientSetup ("invalid token symbol " ++ Text.quote s))

end TokenSymbol

/-- A day of the calendar. -/
structure Date where
  year : Nat
  month : Nat
  day : Nat
deriving DecidableEq

namespace Date

/-- Digits of a number behind zeros that fill a width. -/
def padded (width n : Nat) : String :=
  let digits := toString n
  String.ofList (List.replicate (width - digits.length) '0') ++ digits

/-- The text under which the price of a day is stored: day, month and year. -/
def toText (d : Date) : String :=
  padded 2 d.day ++ "-" ++ padded 2 d.month ++ "-" ++ padded 4 d.year

/-- Read year, month and day. -/
def parse? (s : String) : Option Date :=
  match (s.splitOn "-").mapM String.toNat? with
  | some [year, month, day] => some ⟨year, month, day⟩
  | _ => none

end Date

/-- A stored price. A special one has no digits. -/
inductive StoredPrice where
  | decimal (value : Decimal)
  | special (value : Float)
  | missing

namespace StoredPrice

/-- The price as a float. A decimal has to lie in the range of doubles. -/
def toFloat : StoredPrice → Except DatabaseError Float
  | decimal d =>
    match d.toFloatInRange? with
    | some x => .ok x
    | none => .error (.query "price is out of range")
  | special x => .ok x
  | missing => .error (.query "price is missing")

end StoredPrice

/-- The prices of a token, whose symbol is in lower case, by the text of their days. -/
structure PriceTable where
  symbol : String
  prices : List (String × StoredPrice)

namespace PriceTable

/-- The price of a day among all tables of prices. -/
def price (tables : List PriceTable) (symbol : TokenSymbol) (date : Date) :
    Except DatabaseError (Option Float) :=
  match tables.find? (·.symbol = symbol.text) with
  | none => .error (.query "table of prices is missing")
  | some t => (t.prices.find? (·.1 = date.toText)).mapM fun p => p.2.toFloat

end PriceTable
end StakingIndexer
