import StakingIndexer.Configuration.Check
import StakingIndexer.Database.Connection
import StakingIndexer.Relay.Ss58
import StakingIndexer.Scan.LocalNodes

/-!
# Setting up an indexer

A checked configuration gives the readers of both chains and the settings of the loops. The
database has to answer before any loop starts, the database of the prices need not.
-/

namespace StakingIndexer

/-- Why an indexer cannot be set up. -/
inductive SetupError where
  | configuration (fault : ConfigurationFault)
  | database (cause : DatabaseError)
  | endpointPool (cause : EndpointPoolError)
  | address (cause : Ss58.DecodeError)

namespace SetupError

def message : SetupError → String
  | configuration fault => "invalid configuration: " ++ fault.message
  | database cause => "database error: " ++ cause.message
  | endpointPool cause => "endpoint pool error: " ++ cause.message
  | address cause => "invalid address: " ++ cause.message

end SetupError

/-- What the loops of an indexer are made of, and the token whose prices are looked up, if
they are. -/
structure Indexer where
  parachainReader : ChainReader
  relayReader : ChainReader
  priced : Option TokenSymbol
  settings : LocalNodes.Settings
  scannerConfig : ScannerConfig

namespace Indexer

/-- The first pause after a failure, in milliseconds. -/
def baseBackoff : Nat := 1000

/-- The account behind an address of any network format. -/
def payoutAccount (address : String) : Except Ss58.DecodeError PayoutAccount :=
  (Ss58.decode address).map fun decoded => ⟨decoded.1, address⟩

/-- The reader of a chain, whose pool publishes its health. -/
def reader (c : Configuration) (chain : Chain) (urls : List String) :
    Except EndpointPoolError ChainReader :=
  let timeout := 1000 * c.callTimeout.toNat
  (EndpointPool.ofUrls chain urls timeout).map fun pool =>
    .new pool.attachPublisher ⟨timeout, none, c.maxRange⟩

/-- Set up an indexer; `databaseAnswers` says whether the database of a url does. -/
def ofConfiguration (c : Configuration) (databaseAnswers : String → Bool) :
    Except SetupError Indexer := do
  c.check.mapError .configuration
  let parachainReader ← (reader c .parachain c.parachainUrls).mapError .endpointPool
  let relayReader ← (reader c .relayChain c.relayUrls).mapError .endpointPool
  if !databaseAnswers c.databaseUrl then throw (.database Database.timeout)
  let priced ← c.priceDatabaseUrl.mapM fun _ => (TokenSymbol.parse c.tokenSymbol).mapError .database
  let payout ← c.payoutAddress.mapM fun address => (payoutAccount address).mapError .address
  return {
    parachainReader
    relayReader
    priced
    settings :=
      { constants := c.constants
        historyLimit := c.historyLimit.toNat
        addresses := c.addresses
        initialBlock := c.initialBlock
        payout
        format := c.relayFormat
        validatorsPause := 1000 * c.validatorsPause.toNat }
    scannerConfig :=
      { maxRange := c.maxRange
        pollInterval := c.pollInterval.toNat
        baseBackoff
        maxBackoff := max (1000 * c.maxBackoff.toNat) baseBackoff } }

end Indexer
end StakingIndexer
