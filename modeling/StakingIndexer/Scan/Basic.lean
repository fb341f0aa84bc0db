import StakingIndexer.Aggregate.Fold
import StakingIndexer.Gauge
import StakingIndexer.Reader.Basic
import StakingIndexer.Store.Basic

/-!
# Scan loops: windows, errors and recovery

A loop takes windows behind its cursor. How it goes on after an error depends on the
error and on the kind of its windows.
-/

namespace StakingIndexer

/-- How a target chooses its windows: consecutive ranges of blocks, or the newest block
alone. -/
inductive WindowKind where
  | ranged
  | snapshot
deriving DecidableEq

/-- How a loop goes on after an error: with a narrower window at once, with a narrower
window after a pause, or as before after a pause. -/
inductive Recovery where
  | shrinkRange
  | shrinkRangeAndBackoff
  | backoff
deriving DecidableEq

namespace Recovery

def shrinks : Recovery → Bool
  | shrinkRange | shrinkRangeAndBackoff => true
  | backoff => false

end Recovery

/-- Why a step of a loop fails. -/
inductive ScanError where
  | chain (cause : ReadError)
  | aggregation (cause : AggregationError)
  | store (cause : StoreError)
deriving DecidableEq

namespace ScanError

def message : ScanError → String
  | chain cause => "chain error: " ++ cause.message
  | aggregation cause => "aggregation error: " ++ cause.message
  | store cause => "store error: " ++ cause.message

/-- How a loop with a kind of windows goes on after the error. -/
def recovery : ScanError → WindowKind → Recovery
  | chain (.rangeTooLarge _ _), .ranged => .shrinkRange
  | chain (.unavailable _ _ _ true), .ranged => .shrinkRangeAndBackoff
  | _, _ => .backoff

end ScanError

namespace Scan

/-- The window behind a cursor, if the chain is beyond it. -/
def nextWindow (kind : WindowKind) (cursor height range : UInt64) : Option BlockWindow :=
  if height ≤ cursor then none
  else match kind with
    | .ranged => some ⟨cursor + 1, min (Word.satAdd cursor (max range 1)) height⟩
    | .snapshot => some ⟨height, height⟩

/-- A range less a tenth of it: less by one at least, but not below one. -/
def shrinkRange (range : UInt64) : UInt64 :=
  let shrunk := max (range - range / 10) 1
  if shrunk = range ∧ 1 < range then range - 1 else shrunk

/-- The pause after a number of failures in a row: doubled for each, up to a greatest one. -/
def backoffDelay (base greatest : Nat) (failures : UInt32) : Nat :=
  min (base <<< min failures.toNat 31) greatest

end Scan
end StakingIndexer
