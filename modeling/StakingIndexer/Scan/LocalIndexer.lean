import StakingIndexer.Reader.LocalChain
import StakingIndexer.Scan.EventsTarget
import StakingIndexer.Store.Memory

/-!
# Indexing the events of a chain in memory

Everything that loops over the events of one chain share: the chain, its reader, the clock
of the quarantines, a store and the gauges, to which the pool of the reader adds its own.
-/

namespace StakingIndexer

/-- What loops over a chain in memory share. -/
structure LocalIndexer where
  chain : LocalChain
  reader : ChainReader
  clock : Nat
  store : MemoryStore
  publisher : Publisher

namespace LocalIndexer

/-- An empty chain behind a pool, some endpoints of which refuse connections. -/
def new (pool : EndpointPool) (config : ReaderConfig) (refused : List String) : LocalIndexer :=
  ⟨.empty refused, .new pool config, 0, .empty, .new ""⟩

variable {ε α : Type}

def onChain (a : Action LocalChain ε α) : Action LocalIndexer ε α :=
  a.onPart (·.chain) fun chain w => { w with chain }

def link : Link LocalIndexer where
  reader := (·.reader)
  setReader reader w := { w with reader, publisher := reader.pool.publishTo w.publisher }
  now := (·.clock)
  connect e := onChain (LocalChain.connect e)

def height (_ : Endpoint) : Action LocalIndexer Interruption UInt64 :=
  onChain LocalChain.currentHeight

def logs : Link.LogCall LocalIndexer := fun window _ => onChain (LocalChain.logs window)

/-- The height of the chain, read through the pool. -/
def currentHeight : Action LocalIndexer ReadError UInt64 := link.run "current_height" height

/-- The events of a window, read through the pool. -/
def fetchEvents (window : BlockWindow) : Action LocalIndexer ReadError (List Event) :=
  link.fetchEvents logs window

def checkpoints : CheckpointStore LocalIndexer :=
  MemoryStore.store.onPart (·.store) fun store w => { w with store }

def publish (g : Gauge) (w : LocalIndexer) : LocalIndexer :=
  { w with publisher := w.publisher.set g }

/-- A loop over the events from a first block on. -/
def eventsLoop (a : EventAggregator) (chain : Chain) (config : ScannerConfig)
    (initialBlock : UInt64) : ScanLoop LocalIndexer where
  target := EventsTarget.target a chain link checkpoints height logs initialBlock
  store := checkpoints
  publish
  now _ := 0
  config

end LocalIndexer
end StakingIndexer
