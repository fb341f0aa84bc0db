import StakingIndexer.Aggregate.Fold
import StakingIndexer.Document.Basic
import StakingIndexer.Scan.Scanner

/-!
# Documents of constants and limits
-/

namespace StakingIndexer
namespace Document

/-- Constants, each of which may be missing. -/
def readConstants : Read ProtocolConstants := fun j => do
  let d := ProtocolConstants.standard
  return {
    stakeTarget := ← getFloat j "stake_target" d.stakeTarget
    auctionMax := (← getWord j "auction_max" d.auctionMax.toUInt64).toUInt32
    auctionAdjust := ← getFloat j "auction_adjust" d.auctionAdjust
    maxInflation := ← getFloat j "max_inflation" d.maxInflation
    minInflation := ← getFloat j "min_inflation" d.minInflation
    falloff := ← getFloat j "falloff" d.falloff
    eraDurationInBlocks := ← getWord j "era_duration_in_blocks" d.eraDurationInBlocks
    erasPerDay := ← getWord j "eras_per_day" d.erasPerDay
    aprMin := ← getFloat j "apr_min" d.aprMin
    aprMax := ← getFloat j "apr_max" d.aprMax }

def getConstants (j : Json) : Option ProtocolConstants :=
  get readConstants .standard j "constants"

/-- The aggregator of the constants and the history limit that a document gives. -/
def getAggregator (j : Json) : Option EventAggregator := do
  return .ofConstants (← getConstants j) (← getNat j "history_limit" 100)

/-- The limits of a loop, each of which may be missing. -/
def readScannerConfig : Read ScannerConfig := fun j => do
  return {
    maxRange := ← getWord j "max_range" 2500
    pollInterval := ← getNat j "poll_interval_ms" 16
    baseBackoff := ← getNat j "base_backoff_ms" 1024
    maxBackoff := ← getNat j "max_backoff_ms" 65536 }

def getScannerConfig (j : Json) : Option ScannerConfig :=
  get readScannerConfig ⟨2500, 16, 1024, 65536⟩ j "config"

/-- The kind of a target's windows. -/
def readWindowKind : Read WindowKind
  | .string "ranged" => some .ranged
  | .string "snapshot" => some .snapshot
  | _ => none

end Document
end StakingIndexer
