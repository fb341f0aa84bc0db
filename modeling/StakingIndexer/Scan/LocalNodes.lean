import StakingIndexer.Contract.Node
import StakingIndexer.Relay.Node
import StakingIndexer.Scan.EventsTarget
import StakingIndexer.Scan.ParachainStateTarget
import StakingIndexer.Scan.RelayStateTarget
import StakingIndexer.Scan.ValidatorsInfoTarget
import StakingIndexer.Store.Memory

/-!
# Indexing nodes in memory

Everything that the loops of both chains share when the nodes answer from tables: the
nodes, their readers, a store, the gauges and the era start that is known. The pools of the
readers set their gauges among those of the loops.
-/

namespace StakingIndexer

/-- What loops over nodes in memory share, with a store of type `S`. Refused endpoints
refuse connections, and hanging ones never connect. -/
structure LocalNodes (S : Type) where
  parachain : ParachainNode
  relay : RelayNode
  parachainReader : ChainReader
  relayReader : ChainReader
  refused : List String
  hanging : List String
  store : S
  publisher : Publisher
  eraStart : Option EraStart

namespace LocalNodes

variable {S : Type}

def connect (e : Endpoint) : Action (LocalNodes S) Interruption Unit := fun w =>
  if w.hanging.contains e.url then (.error .hung, w)
  else if w.refused.contains e.url then
    (.error (.failed (.transport ("connection refused: " ++ e.url))), w)
  else (.ok (), w)

def parachainLink : NodeLink (LocalNodes S) Contract.Request where
  reader := (·.parachainReader)
  setReader r w := { w with parachainReader := r, publisher := r.pool.publishTo w.publisher }
  now _ := 0
  connect
  api _ request w :=
    let (reply, n) := ParachainNode.reply request w.parachain
    (reply, { w with parachain := n })

def relayLink : NodeLink (LocalNodes S) Relay.Request where
  reader := (·.relayReader)
  setReader r w := { w with relayReader := r, publisher := r.pool.publishTo w.publisher }
  now _ := 0
  connect
  api _ request w :=
    let (reply, n) := RelayNode.reply request w.relay
    (reply, { w with relay := n })

/-- The operations of the store. -/
def checkpoints (store : CheckpointStore S) : CheckpointStore (LocalNodes S) :=
  store.onPart (·.store) fun s w => { w with store := s }

def sources (store : CheckpointStore S) (addresses : ContractAddresses) :
    RelayStateTarget.Sources (LocalNodes S) where
  relay := relayLink
  parachain := parachainLink
  addresses
  store := checkpoints store
  knownStart := (·.eraStart)
  rememberStart s w := { w with eraStart := some s }

/-- How the targets are set up. `format` is the network format of the relay chain's
addresses, and `validatorsPause` the pause between two sets of validators, in milliseconds.
-/
structure Settings where
  constants : ProtocolConstants
  historyLimit : Nat
  addresses : ContractAddresses
  initialBlock : UInt64
  payout : Option PayoutAccount
  format : UInt16
  validatorsPause : Nat

/-- The target of a kind. `price` looks up the price of the day where there is a source. -/
def target (store : CheckpointStore S) (s : Settings)
    (price : Option (LocalNodes S → Option Float)) : TargetId → ScanTarget (LocalNodes S)
  | .events =>
    EventsTarget.target (.ofConstants s.constants s.historyLimit) .parachain parachainLink.toLink
      (checkpoints store) (fun e => Contract.currentHeight (parachainLink.api e))
      (fun window e => Contract.events (parachainLink.api e) window) s.initialBlock
  | .parachainState =>
    ParachainStateTarget.target (.ofConstants s.constants s.historyLimit) parachainLink s.addresses
      price
  | .relayState =>
    RelayStateTarget.target s.constants (sources store s.addresses) s.payout s.format
  | .validatorsInfo =>
    ValidatorsInfoTarget.target (sources store s.addresses).toChainSources s.format
      s.validatorsPause

/-- The loop of a kind of target. -/
def scanLoop (store : CheckpointStore S) (s : Settings)
    (price : Option (LocalNodes S → Option Float)) (config : ScannerConfig) (id : TargetId) :
    ScanLoop (LocalNodes S) where
  target := target store s price id
  store := checkpoints store
  publish g w := { w with publisher := w.publisher.set g }
  now _ := 0
  config

end LocalNodes
end StakingIndexer
