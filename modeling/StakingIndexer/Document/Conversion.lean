import StakingIndexer.Database.Price
import StakingIndexer.Document.Error
import StakingIndexer.Document.Row
import StakingIndexer.Document.Store

/-!
# Documents of conversions between records and rows
-/

namespace StakingIndexer
namespace Document

open Column

/-- A row, or the first column that cannot be converted. -/
def converted {α : Type} (write : α → Json) (r : Converted α) : Json :=
  outcome databaseError write r

/-- The record of a row, or the first column that cannot be converted. -/
def restored {α : Type} (write : α → Json) (r : Converted α) : Json :=
  converted (fun v => .object [("value", write v)]) r

/-- A cursor with the time at which it moved. -/
def timedCursor (c : ScanCursor) : Json :=
  .object [("chain", text c.chain.name), ("target", text c.target.name), ("block", word c.block),
    ("at", .int c.advancedAt)]

def parsedAddress (a : Address) : Json :=
  .object [("value", address a), ("display", text a.toChecksum)]

/-- The record of a document's `value`. -/
def getValue {α : Type} (read : Read α) (j : Json) : Option α :=
  read ((j.field? "value").getD (.object []))

/-- Carry out the conversion that a document names. -/
def conversion (j : Json) : Option Json := do
  match ← getText j "fn" with
  | "cursor_to_row" =>
    let cursor := ⟨← getChain j "chain", ← get readTarget .events j "target", ← getWord j "block",
      ← get readInteger 0 j "at"⟩
    return converted cursorRow (CursorRow.ofCursor cursor)
  | "cursor_from_row" => return restored timedCursor (← readCursorRow ⟨"", "", 0, 0⟩ j).toCursor
  | "aggregate_from_row" =>
    let row ← readAggregateRow readNumeric { chain := Chain.parachain.name }
      ((j.field? "row").getD .null)
    return restored aggregateState row.toState
  | "overwrites" =>
    let columns := AggregateColumns.ofDelta (← getDelta j)
    return converted (fun c => .object [("is_empty", .bool c.isEmpty),
      ("columns", aggregateColumns c)]) columns
  | "reward_to_row" => return converted reportRow (ReportRow.ofReward (← getValue readRewardRow j))
  | "reward_from_row" => return restored rewardRow (← readReportRow readNumeric default j).toReward
  | "ledger_to_row" => return ledgerRow (.ofRecord (← getValue readLedgerRecord j))
  | "ledger_from_row" =>
    return restored ledgerRecord (← readLedgerRow readNumeric { ledger := "" } j).toRecord
  | "relay_ledger_to_row" =>
    return converted relayLedgerRow (RelayLedgerRow.ofRecord (← getValue readRelayLedgerRecord j))
  | "relay_ledger_from_row" =>
    return restored relayLedgerRecord (← readRelayLedgerRow readNumeric { ledger := "" } j).toRecord
  | "validators_to_row" => return validatorsRow (.ofInfo (← getValue readValidatorsInfo j))
  | "validators_from_row" =>
    return restored validatorsInfo (← readValidatorsRow readNumeric { ledger := "" } j).toInfo
  | "parse_chain" => return restored (fun c => text c.name) (toChain (← getText j "text"))
  | "token_symbol" =>
    return restored (fun s => text s.text) (TokenSymbol.parse (← getText j "text"))
  | "parse_address" => return converted parsedAddress (toAddress (← getText j "text"))
  | _ => none

end Document
end StakingIndexer
