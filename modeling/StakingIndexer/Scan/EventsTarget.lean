import StakingIndexer.Reader.Events
import StakingIndexer.Scan.Scanner

/-!
# The events target

Events of the pool contract are read window by window and folded into the state of the
chain. The history of recent reports is restored from the store.
-/

namespace StakingIndexer
namespace EventsTarget

/-- What is published for a window of events. -/
def gauges (state : AggregateState) (window : BlockWindow) : List Gauge :=
  [.plain "parachain_block_number" window.last.toFloat]
    ++ (state.lastBlockWithEvents.map fun block =>
        Gauge.plain "parachain_last_block_number_with_events" block.toFloat).toList
    ++ [.plain "apr" state.apr,
        .plain "holders_number" state.holdersNumber.toFloat,
        .amount "nimbus_deposits" state.deposited,
        .amount "nimbus_redeems" state.redeemed,
        .plain "nimbus_deposited_events_number" state.depositedCount.toFloat,
        .plain "nimbus_redeemed_events_number" state.redeemedCount.toFloat,
        .amount "nimbus_rewards_aggregated" state.rewardsAggregated,
        .amount "nimbus_losses_aggregated" state.lossesAggregated]

/-- The cursor before a first block. -/
def initialCursor (initialBlock : UInt64) : UInt64 := Word.satSub initialBlock 1

variable {ω : Type}

/-- Restore the history of reports. -/
def hydrate (a : EventAggregator) (store : CheckpointStore ω) (state : AggregateState) :
    Action ω ScanError AggregateState := do
  let rows ← (store.recentRewards a.historyLimit).mapError .store
  return state.withHistory rows

/-- Read and fold the events of a window. -/
def scan (a : EventAggregator) (link : Link ω) (logs : Link.LogCall ω) (window : BlockWindow)
    (state : AggregateState) (w : ω) : ScanResult × ω :=
  match link.fetchEvents logs window w with
  | (.error e, w) => (.failed (.chain e), w)
  | (.ok events, w) =>
    match a.apply state events [] with
    | .error e => (.failed (.aggregation e), w)
    | .ok applied => (.output ⟨applied.state, applied.delta, []⟩, w)

/-- The target that reads the events of a chain from a first block on. -/
def target (a : EventAggregator) (chain : Chain) (link : Link ω) (store : CheckpointStore ω)
    (height : Endpoint → Action ω Interruption UInt64) (logs : Link.LogCall ω)
    (initialBlock : UInt64) : ScanTarget ω where
  id := .events
  chain
  kind := .ranged
  initialCursor := initialCursor initialBlock
  throttle := none
  currentHeight := (link.run "current_height" height).mapError .chain
  hydrate := hydrate a store
  scan := scan a link logs
  gauges

end EventsTarget
end StakingIndexer
