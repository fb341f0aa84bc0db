import StakingIndexer.Contract.Snapshot
import StakingIndexer.Relay.Client
import StakingIndexer.Rpc.Basic

/-!
# Both chains as sources

The stashes whose state is read on the relay chain are listed by contracts of the parachain.
-/

namespace StakingIndexer

/-- How both chains are read, and the contracts of the parachain. -/
structure ChainSources (ω : Type) where
  relay : NodeLink ω Relay.Request
  parachain : NodeLink ω Contract.Request
  addresses : ContractAddresses

namespace ChainSources

variable {ω : Type}

/-- The stashes that a contract lists at the newest block of the parachain. -/
def stashes (src : ChainSources ω) (source : Contract.StashSource) :
    Action ω ReadError (List StashLedger) := do
  let height ← src.parachain.read NodeLink.heightOp Contract.currentHeight
  src.parachain.read NodeLink.stateOp fun api =>
    (Contract.View.mk api src.addresses height).stashLedgers source

/-- The height of the relay chain. -/
def relayHeight (src : ChainSources ω) : Action ω ReadError UInt64 :=
  src.relay.read NodeLink.heightOp Relay.currentHeight

end ChainSources
end StakingIndexer
