import StakingIndexer.Relay.Snapshot
import StakingIndexer.Scan.ChainSources
import StakingIndexer.Scan.Scanner

/-!
# The validators info target

The validators that each stash nominates replace the stored set as a whole. Nothing is
published, and the state does not change.
-/

namespace StakingIndexer
namespace ValidatorsInfoTarget

/-- The output of a set of records. -/
def output (state : AggregateState) (infos : List ValidatorsInfo) : ScanOutput :=
  ⟨state, { chain := .relayChain, validatorsInfo := some infos }, []⟩

variable {ω : Type}

/-- Read the records at the last block of a window. -/
def scan (src : ChainSources ω) (format : UInt16) (window : BlockWindow)
    (state : AggregateState) : Action ω ScanError ScanOutput := do
  let stashes ← (src.stashes .nimbus).mapError .chain
  let infos ← (src.relay.read NodeLink.stateOp fun api =>
    Relay.validatorsInfo api stashes format window.last).mapError .chain
  return output state infos

/-- The target, which waits between two sets of records; the pause is in milliseconds. -/
def target (src : ChainSources ω) (format : UInt16) (pause : Nat) : ScanTarget ω where
  id := .validatorsInfo
  chain := .relayChain
  kind := .snapshot
  initialCursor := 0
  throttle := some pause
  currentHeight := src.relayHeight.mapError .chain
  hydrate := pure
  scan window state w :=
    let (r, w) := scan src format window state w
    (.ofOutput r, w)
  gauges _ _ := []

end ValidatorsInfoTarget
end StakingIndexer
