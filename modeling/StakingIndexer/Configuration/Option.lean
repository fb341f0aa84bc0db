import StakingIndexer.Configuration.Basic
import StakingIndexer.Decimal.Nearest
import StakingIndexer.Saturating

/-!
# Options

Each setting has an option on the command line and a variable in the environment. What
an option takes says how its text changes the configuration, or that it is no value.
-/

namespace StakingIndexer

/-- What an option takes: no value, so that being given sets it; one value, which is refused
if it is none; or values between commas, behind those given earlier. -/
inductive OptionForm where
  | flag (set : Bool → Configuration → Configuration)
  | single (read : String → Option (Configuration → Configuration))
  | list (append : List String → Configuration → Configuration)

/-- A way to set a part of the configuration, by its name on the command line, without the
dashes, or by that in the environment. -/
structure ConfigurationOption where
  name : String
  environment : String
  form : OptionForm
  required : Bool := false

namespace ConfigurationOption

/-- Digits behind an optional sign; the sign's value comes first. -/
def signedDigits? (s : String) : Option (Int × Nat) :=
  let (sign, cs) := Decimal.readSign s.toList
  if cs.isEmpty || !cs.all Char.isDigit then none else some (sign, Decimal.digitsValue 0 cs)

/-- A word of 64 bits, in digits behind an optional plus sign. -/
def word? (s : String) : Option UInt64 :=
  (signedDigits? s).bind fun (_, n) =>
    if s.startsWith "-" || UInt64.size ≤ n then none else some (.ofNat n)

/-- A number below a bound, in digits behind an optional sign. -/
def number? (bound : Nat) (s : String) : Option Nat :=
  (signedDigits? s).bind fun (sign, n) => if n < bound ∧ (0 < sign ∨ n = 0) then some n else none

/-- An option whose value is read before it is set. -/
def reading {α : Type} (name environment : String) (read : String → Option α)
    (set : α → Configuration → Configuration) (required : Bool := false) : ConfigurationOption :=
  ⟨name, environment, .single fun s => (read s).map set, required⟩

/-- An option that takes any text. -/
def text (name environment : String) (set : String → Configuration → Configuration)
    (required : Bool := false) : ConfigurationOption :=
  reading name environment some set required

def word (name environment : String) (set : UInt64 → Configuration → Configuration) :
    ConfigurationOption :=
  reading name environment word? set

/-- An option that takes a constant of the protocol. -/
def constant (name environment : String)
    (set : Float → ProtocolConstants → ProtocolConstants) : ConfigurationOption :=
  reading name environment Decimal.readFloat? fun x c => { c with constants := set x c.constants }

/-- A required option that takes the address of a contract. -/
def contract (name environment : String)
    (set : Address → ContractAddresses → ContractAddresses) : ConfigurationOption :=
  reading name environment Address.parse?
    (fun a c => { c with addresses := set a c.addresses }) true

/-- Every option, in the order in which the environment is read. -/
def all : List ConfigurationOption :=
  [⟨"ws-urls-para", "WS_URLS_PARA",
      .list fun urls c => { c with parachainUrls := c.parachainUrls ++ urls }, false⟩,
    ⟨"ws-urls-relay", "WS_URLS_RELAY",
      .list fun urls c => { c with relayUrls := c.relayUrls ++ urls }, false⟩,
    word "timeout" "TIMEOUT" fun n c => { c with callTimeout := n },
    text "database-url" "DATABASE_URL" (fun s c => { c with databaseUrl := s }) true,
    text "database-url-token-price-collector" "DATABASE_URL_TOKEN_PRICE_COLLECTOR"
      fun s c => { c with priceDatabaseUrl := some s },
    text "token-symbol" "TOKEN_SYMBOL" fun s c => { c with tokenSymbol := s },
    word "database-query-limit" "DATABASE_QUERY_LIMIT" fun n c => { c with historyLimit := n },
    word "initial-block-number" "INITIAL_BLOCK_NUMBER_AGGREGATED_METRICS_EXPORTER"
      fun n c => { c with initialBlock := n },
    word "max-range-of-blocks" "MAX_RANGE_OF_BLOCKS" fun n c => { c with maxRange := n },
    word "poll-interval-ms" "POLL_INTERVAL_MS" fun n c => { c with pollInterval := n },
    word "max-backoff-secs" "MAX_BACKOFF_SECS" fun n c => { c with maxBackoff := n },
    word "validators-info-waiting-time" "VALIDATORS_INFO_EXPORTER_WAITING_TIME"
      fun n c => { c with validatorsPause := n },
    constant "stake-target" "STAKE_TARGET" fun x k => { k with stakeTarget := x },
    reading "auction-max" "AUCTION_MAX" (number? UInt32.size)
      fun n c => { c with constants := { c.constants with auctionMax := .ofNat n } },
    constant "auction-adjust" "AUCTION_ADJUST" fun x k => { k with auctionAdjust := x },
    constant "max-inflation" "MAX_INFLATION" fun x k => { k with maxInflation := x },
    constant "min-inflation" "MIN_INFLATION" fun x k => { k with minInflation := x },
    constant "falloff" "FALLOFF" fun x k => { k with falloff := x },
    word "era-duration-in-blocks" "ERA_DURATION_IN_BLOCKS"
      fun n c => { c with constants := { c.constants with eraDurationInBlocks := n } },
    word "eras-per-day" "ERAS_PER_DAY"
      fun n c => { c with constants := { c.constants with erasPerDay := n } },
    constant "apr-min" "APR_MIN" fun x k => { k with aprMin := x },
    constant "apr-max" "APR_MAX" fun x k => { k with aprMax := x },
    contract "nimbus-contract-address" "NIMBUS_CONTRACT_ADDRESS" fun a k => { k with nimbus := a },
    contract "oracle-master-contract-address" "ORACLE_MASTER_CONTRACT_ADDRESS"
      fun a k => { k with oracleMaster := a },
    contract "withdrawal-contract-address" "WITHDRAWAL_CONTRACT_ADDRESS"
      fun a k => { k with withdrawal := a },
    contract "xctoken-contract-address" "XCTOKEN_CONTRACT_ADDRESS"
      fun a k => { k with xctoken := a },
    contract "controller-contract-address" "CONTROLLER_CONTRACT_ADDRESS"
      fun a k => { k with controller := a },
    reading "ss58-format-relay" "SS58_FORMAT_RELAY" (number? UInt16.size)
      fun n c => { c with relayFormat := .ofNat n },
    text "payout-service-address" "PAYOUT_SERVICE_ADDRESS"
      fun s c => { c with payoutAddress := some s },
    reading "prometheus-metrics-port" "PROMETHEUS_METRICS_PORT" (number? UInt16.size)
      fun n c => { c with metricsPort := .ofNat n },
    text "prometheus-metrics-prefix" "PROMETHEUS_METRICS_PREFIX"
      fun s c => { c with metricsMark := s },
    text "log-level" "LOG_LEVEL" fun s c => { c with logLevel := s },
    ⟨"pretty-logs", "PRETTY_LOGS", .flag fun b c => { c with prettyLogs := b }, false⟩]

end ConfigurationOption
end StakingIndexer
