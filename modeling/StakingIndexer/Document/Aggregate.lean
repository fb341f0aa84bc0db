import StakingIndexer.Aggregate.Delta
import StakingIndexer.Document.Ledger

/-!
# Documents of aggregate states and their changes
-/

namespace StakingIndexer
namespace Document

/-- An object with an amount for each address. -/
def balances (m : AddressMap Amount) : Json :=
  .object (m.entries.map fun e => (e.1.toHex, amount e.2))

def readBalances : Read (AddressMap Amount) := fun j => do
  let entries ← (← j.fields?).mapM fun f => do
    return (← Address.parse? f.1, ← readAmount f.2)
  return .ofList entries

def relayAggregates (r : RelayAggregates) : Fields :=
  optionField "active_era_id" word r.activeEraId
    ++ optionField "next_era_start_time" int64 r.nextEraStartTime
    ++ optionField "validators_count" word r.validatorsCount
    ++ amountField "total_staked" r.totalStaked
    ++ amountField "total_issuance" r.totalIssuance

def readRelayAggregates : Read RelayAggregates := fun j => do
  return {
    activeEraId := ← getOption readWord j "active_era_id"
    nextEraStartTime := ← getOption readInt64 j "next_era_start_time"
    validatorsCount := ← getOption readWord j "validators_count"
    totalStaked := ← getAmount j "total_staked"
    totalIssuance := ← getAmount j "total_issuance" }

def aggregateState (s : AggregateState) : Json :=
  let relay := relayAggregates s.relay
  .object ([("chain", text s.chain.name)]
    ++ amountField "total_supply" s.totalSupply
    ++ optionField "total_supply_usd" float s.totalSupplyUsd
    ++ amountField "contract_buffered_deposits" s.contractBufferedDeposits
    ++ amountField "contract_buffered_redeems" s.contractBufferedRedeems
    ++ optionField "era_id" word s.eraId
    ++ optionField "current_era_id" word s.currentEraId
    ++ optionField "next_era_start_time" int64 s.nextEraStartTime
    ++ omitIf relay.isEmpty "relay" (.object relay)
    ++ floatField "apr_per_month" s.aprPerMonth
    ++ floatField "apr_per_week" s.aprPerWeek
    ++ floatField "inflation_rate" s.inflationRate
    ++ floatField "estimated_apy" s.estimatedApy
    ++ listField "ledgers" ledgerRecord s.ledgers.values
    ++ listField "relay_ledgers" relayLedgerRecord s.relayLedgers.values
    ++ amountField "buffered_deposits" s.bufferedDeposits
    ++ amountField "buffered_redeems" s.bufferedRedeems
    ++ amountField "deposited" s.deposited
    ++ amountField "redeemed" s.redeemed
    ++ wordField "deposited_count" s.depositedCount
    ++ wordField "redeemed_count" s.redeemedCount
    ++ amountField "rewards_aggregated" s.rewardsAggregated
    ++ amountField "losses_aggregated" s.lossesAggregated
    ++ wordField "holders_number" s.holdersNumber
    ++ omitIf s.holderBalances.isEmpty "holder_balances" (balances s.holderBalances)
    ++ optionField "last_block_with_events" word s.lastBlockWithEvents
    ++ floatField "apr" s.apr
    ++ listField "recent_rewards" rewardRow s.recentRewards.values.flatten)

def readAggregateState : Read AggregateState := fun j => do
  let rows ← getList readRewardRow j "recent_rewards"
  return {
    chain := ← getChain j "chain"
    totalSupply := ← getAmount j "total_supply"
    totalSupplyUsd := ← getOption readFloat j "total_supply_usd"
    contractBufferedDeposits := ← getAmount j "contract_buffered_deposits"
    contractBufferedRedeems := ← getAmount j "contract_buffered_redeems"
    eraId := ← getOption readWord j "era_id"
    currentEraId := ← getOption readWord j "current_era_id"
    nextEraStartTime := ← getOption readInt64 j "next_era_start_time"
    relay := ← get readRelayAggregates default j "relay"
    aprPerMonth := ← getFloat j "apr_per_month"
    aprPerWeek := ← getFloat j "apr_per_week"
    inflationRate := ← getFloat j "inflation_rate"
    estimatedApy := ← getFloat j "estimated_apy"
    ledgers := .ofList ((← getList readLedgerRecord j "ledgers").map fun r => (r.ledger, r))
    relayLedgers :=
      .ofList ((← getList readRelayLedgerRecord j "relay_ledgers").map fun r => (r.ledger, r))
    bufferedDeposits := ← getAmount j "buffered_deposits"
    bufferedRedeems := ← getAmount j "buffered_redeems"
    deposited := ← getAmount j "deposited"
    redeemed := ← getAmount j "redeemed"
    depositedCount := ← getWord j "deposited_count"
    redeemedCount := ← getWord j "redeemed_count"
    rewardsAggregated := ← getAmount j "rewards_aggregated"
    lossesAggregated := ← getAmount j "losses_aggregated"
    holdersNumber := ← getWord j "holders_number"
    holderBalances := ← get readBalances .empty j "holder_balances"
    lastBlockWithEvents := ← getOption readWord j "last_block_with_events"
    apr := ← getFloat j "apr"
    recentRewards := rows.foldl (fun m row => m.update row.ledger [] (· ++ [row])) .empty }

def counters (c : CounterIncrements) : Fields :=
  amountField "deposited" c.deposited
    ++ amountField "redeemed" c.redeemed
    ++ wordField "deposited_count" c.depositedCount
    ++ wordField "redeemed_count" c.redeemedCount
    ++ amountField "rewards_aggregated" c.rewardsAggregated
    ++ amountField "losses_aggregated" c.lossesAggregated
    ++ amountField "buffered_deposits" c.bufferedDeposits
    ++ amountField "buffered_redeems_drawn" c.bufferedRedeemsDrawn

def readCounters : Read CounterIncrements := fun j => do
  return {
    deposited := ← getAmount j "deposited"
    redeemed := ← getAmount j "redeemed"
    depositedCount := ← getWord j "deposited_count"
    redeemedCount := ← getWord j "redeemed_count"
    rewardsAggregated := ← getAmount j "rewards_aggregated"
    lossesAggregated := ← getAmount j "losses_aggregated"
    bufferedDeposits := ← getAmount j "buffered_deposits"
    bufferedRedeemsDrawn := ← getAmount j "buffered_redeems_drawn" }

def scalars (s : ScalarOverwrites) : Fields :=
  optionField "total_supply" amount s.totalSupply
    ++ optionField "total_supply_usd" float s.totalSupplyUsd
    ++ optionField "contract_buffered_deposits" amount s.contractBufferedDeposits
    ++ optionField "contract_buffered_redeems" amount s.contractBufferedRedeems
    ++ optionField "era_id" word s.eraId
    ++ optionField "current_era_id" word s.currentEraId
    ++ optionField "next_era_start_time" int64 s.nextEraStartTime
    ++ optionField "relay_active_era_id" word s.relayActiveEraId
    ++ optionField "relay_next_era_start_time" int64 s.relayNextEraStartTime
    ++ optionField "relay_validators_count" word s.relayValidatorsCount
    ++ optionField "relay_total_staked" amount s.relayTotalStaked
    ++ optionField "relay_total_issuance" amount s.relayTotalIssuance
    ++ optionField "last_block_with_events" word s.lastBlockWithEvents
    ++ optionField "apr" float s.apr
    ++ optionField "apr_per_month" float s.aprPerMonth
    ++ optionField "apr_per_week" float s.aprPerWeek
    ++ optionField "inflation_rate" float s.inflationRate
    ++ optionField "estimated_apy" float s.estimatedApy

def readScalars : Read ScalarOverwrites := fun j => do
  return {
    totalSupply := ← getOption readAmount j "total_supply"
    totalSupplyUsd := ← getOption readFloat j "total_supply_usd"
    contractBufferedDeposits := ← getOption readAmount j "contract_buffered_deposits"
    contractBufferedRedeems := ← getOption readAmount j "contract_buffered_redeems"
    eraId := ← getOption readWord j "era_id"
    currentEraId := ← getOption readWord j "current_era_id"
    nextEraStartTime := ← getOption readInt64 j "next_era_start_time"
    relayActiveEraId := ← getOption readWord j "relay_active_era_id"
    relayNextEraStartTime := ← getOption readInt64 j "relay_next_era_start_time"
    relayValidatorsCount := ← getOption readWord j "relay_validators_count"
    relayTotalStaked := ← getOption readAmount j "relay_total_staked"
    relayTotalIssuance := ← getOption readAmount j "relay_total_issuance"
    lastBlockWithEvents := ← getOption readWord j "last_block_with_events"
    apr := ← getOption readFloat j "apr"
    aprPerMonth := ← getOption readFloat j "apr_per_month"
    aprPerWeek := ← getOption readFloat j "apr_per_week"
    inflationRate := ← getOption readFloat j "inflation_rate"
    estimatedApy := ← getOption readFloat j "estimated_apy" }

def aggregateDelta (d : AggregateDelta) : Json :=
  let counters := counters d.counters
  let scalars := scalars d.scalars
  .object ([("chain", text d.chain.name)]
    ++ omitIf counters.isEmpty "counters" (.object counters)
    ++ omitIf scalars.isEmpty "scalars" (.object scalars)
    ++ omitIf d.holderBalances.isEmpty "holder_balances" (balances d.holderBalances)
    ++ optionField "holders_number" word d.holdersNumber
    ++ listField "reward_rows" rewardRow d.rewardRows
    ++ listField "ledgers" ledgerRecord d.ledgers
    ++ listField "relay_ledgers" relayLedgerRecord d.relayLedgers
    ++ optionField "validators_info" (fun l => .array (l.map validatorsInfo)) d.validatorsInfo)

def readAggregateDelta : Read AggregateDelta := fun j => do
  return {
    chain := ← getChain j "chain"
    counters := ← get readCounters {} j "counters"
    scalars := ← get readScalars {} j "scalars"
    holderBalances := ← get readBalances .empty j "holder_balances"
    holdersNumber := ← getOption readWord j "holders_number"
    rewardRows := ← getList readRewardRow j "reward_rows"
    ledgers := ← getList readLedgerRecord j "ledgers"
    relayLedgers := ← getList readRelayLedgerRecord j "relay_ledgers"
    validatorsInfo := ← getOption (readList readValidatorsInfo) j "validators_info" }

end Document
end StakingIndexer
