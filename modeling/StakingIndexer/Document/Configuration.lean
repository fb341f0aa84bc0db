import StakingIndexer.Configuration.Arguments
import StakingIndexer.Configuration.Check
import StakingIndexer.Document.Error

/-!
# Documents of configurations
-/

namespace StakingIndexer
namespace Document

def constants (k : ProtocolConstants) : Json :=
  .object [("stake_target", float k.stakeTarget), ("auction_max", .nat k.auctionMax.toNat),
    ("auction_adjust", float k.auctionAdjust), ("max_inflation", float k.maxInflation),
    ("min_inflation", float k.minInflation), ("falloff", float k.falloff),
    ("era_duration_in_blocks", word k.eraDurationInBlocks), ("eras_per_day", word k.erasPerDay),
    ("apr_min", float k.aprMin), ("apr_max", float k.aprMax)]

def contractAddresses (a : ContractAddresses) : Json :=
  .object [("nimbus", address a.nimbus), ("oracle_master", address a.oracleMaster),
    ("withdrawal", address a.withdrawal), ("xctoken", address a.xctoken),
    ("controller", address a.controller)]

def configurationError (e : ConfigurationFault) : Json :=
  failure "Config" (some ("invalid configuration: " ++ e.message))

/-- Every setting, and whether they are of use together. -/
def configuration (c : Configuration) : Json :=
  .object [("ws_urls_para", .array (c.parachainUrls.map text)),
    ("ws_urls_relay", .array (c.relayUrls.map text)), ("call_timeout_secs", word c.callTimeout),
    ("database_url", text c.databaseUrl),
    ("database_url_token_price_collector", orNull text c.priceDatabaseUrl),
    ("token_symbol", text c.tokenSymbol), ("database_query_limit", word c.historyLimit),
    ("initial_block_number", word c.initialBlock), ("max_range_of_blocks", word c.maxRange),
    ("poll_interval_ms", word c.pollInterval), ("max_backoff_secs", word c.maxBackoff),
    ("validators_info_waiting_time", word c.validatorsPause),
    ("constants", constants c.constants), ("addresses", contractAddresses c.addresses),
    ("ss58_format_relay", .nat c.relayFormat.toNat),
    ("payout_service_address", orNull text c.payoutAddress),
    ("prometheus_metrics_port", .nat c.metricsPort.toNat),
    ("prometheus_metrics_prefix", text c.metricsMark), ("log_level", text c.logLevel),
    ("pretty_logs", .bool c.prettyLogs),
    ("validate", outcome configurationError (fun () => text "ok") c.check)]

def argumentErrorKind : ArgumentError → String
  | .missingRequired => "MissingRequiredArgument"
  | .unknownArgument => "UnknownArgument"
  | .invalidText => "ValueValidation"
  | .invalidValue => "InvalidValue"
  | .tooManyValues => "TooManyValues"
  | .repeated => "ArgumentConflict"
  | .helpRequested => "DisplayHelp"

def argumentError (e : ArgumentError) : Json := failure (argumentErrorKind e) none

/-- An environment as an object of texts. -/
def readEnvironment : Read (String → Option String) := fun j => do
  let fields ← (← j.fields?).mapM fun f => do return (f.1, ← readText f.2)
  return fun name => (fields.find? (·.1 = name)).map (·.2)

end Document
end StakingIndexer
