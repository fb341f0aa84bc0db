import StakingIndexer.Contract.Client
import StakingIndexer.Protocol

/-!
# Configuration

Everything about an indexer that is set from outside. Times have the unit in which
they are set.
-/

namespace StakingIndexer

/-- The settings of an indexer. `pollInterval` is in milliseconds, every other time in
seconds. `historyLimit` is the number of a ledger's reports that the averages take in,
`maxRange` the number of blocks that are asked for at once, and `metricsMark` stands before
the name of every exported gauge. -/
structure Configuration where
  parachainUrls : List String
  relayUrls : List String
  callTimeout : UInt64
  databaseUrl : String
  priceDatabaseUrl : Option String
  tokenSymbol : String
  historyLimit : UInt64
  initialBlock : UInt64
  maxRange : UInt64
  pollInterval : UInt64
  maxBackoff : UInt64
  validatorsPause : UInt64
  constants : ProtocolConstants
  addresses : ContractAddresses
  relayFormat : UInt16
  payoutAddress : Option String
  metricsPort : UInt16
  metricsMark : String
  logLevel : String
  prettyLogs : Bool

namespace Configuration

/-- The settings before any option is given. The database and the contracts have to be given. -/
def standard : Configuration where
  parachainUrls := []
  relayUrls := []
  callTimeout := 60
  databaseUrl := ""
  priceDatabaseUrl := none
  tokenSymbol := "ksm"
  historyLimit := 100
  initialBlock := 0
  maxRange := 2500
  pollInterval := 1000
  maxBackoff := 60
  validatorsPause := 60
  constants := .standard
  addresses := default
  relayFormat := 42
  payoutAddress := none
  metricsPort := 8000
  metricsMark := ""
  logLevel := "info"
  prettyLogs := false

end Configuration
end StakingIndexer
