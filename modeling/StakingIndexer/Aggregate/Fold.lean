import StakingIndexer.Aggregate.Delta
import StakingIndexer.Metrics

/-!
# Folding events into the aggregate state

A window of events yields the next state together with the change that a store keeps.
Events are taken by place, each place once. At the end of a block that holds a report
the average return is computed again; the holders are counted at the end of a window
that holds a transfer.
-/

namespace StakingIndexer

/-- Why a window cannot be folded: an event carries a value that the state cannot hold, or
the first event is not after the last block that the state holds. -/
inductive AggregationError where
  | malformed (detail : String)
  | stale (block lastApplied : UInt64)
deriving DecidableEq

namespace AggregationError

def message : AggregationError → String
  | malformed detail => "malformed event: " ++ detail
  | stale block lastApplied =>
    "event at block " ++ toString block.toNat ++ " is not after the last applied block "
      ++ toString lastApplied.toNat

end AggregationError

/-- The state after a window and the change that leads there. -/
structure AppliedWindow where
  state : AggregateState
  delta : AggregateDelta

/-- How events are folded: the rule by which reports are averaged, and how many of a ledger
are. -/
structure EventAggregator where
  erasPerDay : UInt64
  aprMin : Float
  aprMax : Float
  historyLimit : Nat

namespace EventAggregator

/-- The aggregator of a protocol. At least one report of a ledger is kept. -/
def ofConstants (c : ProtocolConstants) (historyLimit : Nat) : EventAggregator :=
  ⟨c.erasPerDay, c.aprMin, c.aprMax, max historyLimit 1⟩

/-- A window that is being folded, and whether the block at hand holds a report. -/
structure Progress where
  state : AggregateState
  delta : AggregateDelta
  sawTransfer : Bool
  sawReport : Bool

namespace Progress

def start (s : AggregateState) : Progress := ⟨s, { chain := s.chain }, false, false⟩

/-- Set a holder's balance in the state, and note it in the change. -/
def setHolder (p : Progress) (holder : Address) (balance : Amount) : Progress :=
  { p with
    state := { p.state with
      holderBalances := AggregateState.setBalance p.state.holderBalances holder balance }
    delta := { p.delta with holderBalances := p.delta.holderBalances.insert holder balance } }

def balanceOf (p : Progress) (holder : Address) : Amount :=
  (p.state.holderBalances.get? holder).getD .zero

/-- Change the balance of a holder; the zero address holds nothing. -/
def changeHolder (p : Progress) (holder : Address) (change : Amount → Amount) : Progress :=
  if holder = .zero then p else p.setHolder holder (change (p.balanceOf holder))

/-- Add to the counters of state and change alike. -/
def count (p : Progress) (c : CounterIncrements) : Progress :=
  let d := p.delta.counters
  { p with
    state := p.state.increment c
    delta := { p.delta with
      counters :=
        { deposited := d.deposited.satAdd c.deposited
          redeemed := d.redeemed.satAdd c.redeemed
          depositedCount := d.depositedCount + c.depositedCount
          redeemedCount := d.redeemedCount + c.redeemedCount
          rewardsAggregated := d.rewardsAggregated.satAdd c.rewardsAggregated
          lossesAggregated := d.lossesAggregated.satAdd c.lossesAggregated
          bufferedDeposits := d.bufferedDeposits.satAdd c.bufferedDeposits
          bufferedRedeemsDrawn := d.bufferedRedeemsDrawn.satAdd c.bufferedRedeemsDrawn } } }

/-- Append a report to the history and to the change. -/
def report (p : Progress) (row : RewardRow) (limit : Nat) : Progress :=
  { p with
    state := p.state.pushReward row limit
    delta := { p.delta with rewardRows := p.delta.rewardRows ++ [row] }
    sawReport := true }

end Progress

/-- The signed value of a reported amount. -/
def signedReport (amount : Amount) (block : UInt64) : Except AggregationError SignedAmount :=
  match amount.toSigned? with
  | some r => .ok r
  | none => .error (.malformed ("report amount " ++ amount.toDecimal ++ " at block "
      ++ toString block.toNat ++ " overflows"))

/-- The signed value of a reported loss. -/
def signedLoss (amount : Amount) (block : UInt64) : Except AggregationError SignedAmount := do
  let r ← signedReport amount block
  return (r.neg?).getD r

/-- Fold one event. -/
def applyEvent (a : EventAggregator) (p : Progress) (e : Event) :
    Except AggregationError Progress :=
  match e.payload with
  | .transfer sender receiver value =>
    let p := p.changeHolder sender (·.satSub value)
    let p := p.changeHolder receiver (·.satAdd value)
    .ok { p with sawTransfer := true }
  | .deposited _ amount =>
    .ok (p.count { deposited := amount, bufferedDeposits := amount, depositedCount := 1 })
  | .redeemed _ amount =>
    .ok (p.count { redeemed := amount, bufferedRedeemsDrawn := amount, redeemedCount := 1 })
  | .rewards ledger rewards balance => do
    let p := p.count { rewardsAggregated := rewards }
    let reward ← signedReport rewards e.block
    return p.report ⟨ledger, reward, balance, e.block⟩ a.historyLimit
  | .losses ledger losses balance => do
    let p := p.count { lossesAggregated := losses }
    let reward ← signedLoss losses e.block
    return p.report ⟨ledger, reward, balance, e.block⟩ a.historyLimit

/-- The average return over the history of a state. -/
def currentApr (a : EventAggregator) (s : AggregateState) : Float :=
  Metrics.averageApr s.apr s.recentRewards.values.flatten a.erasPerDay a.aprMin a.aprMax

/-- Finish a block: note that it held events, and average anew if it held a report. -/
def closeBlock (a : EventAggregator) (p : Progress) (block : UInt64) : Progress :=
  let state := { p.state with lastBlockWithEvents := some block }
  let scalars := { p.delta.scalars with lastBlockWithEvents := some block }
  if p.sawReport then
    let apr := a.currentApr state
    { p with
      state := { state with apr }
      delta := { p.delta with scalars := { scalars with apr := some apr } }
      sawReport := false }
  else { p with state, delta := { p.delta with scalars } }

/-- Fold events that are sorted by place, finishing each block behind its last event. -/
def applyEvents (a : EventAggregator) : Progress → List Event → Except AggregationError Progress
  | p, [] => .ok p
  | p, e :: rest => do
    let p ← a.applyEvent p e
    let more := match rest with
      | next :: _ => next.block == e.block
      | [] => false
    a.applyEvents (if more then p else a.closeBlock p e.block) rest

/-- Count the holders if a transfer was seen. -/
def countHolders (p : Progress) : Progress :=
  if p.sawTransfer then
    let holders := UInt64.ofNat p.state.holderBalances.size
    { p with
      state := { p.state with holdersNumber := holders }
      delta := { p.delta with holdersNumber := some holders } }
  else p

/-- Take over snapshots of ledgers. -/
def applySnapshots (p : Progress) (ledgers : List LedgerRecord) : Progress :=
  { p with
    state := { p.state with
      ledgers := ledgers.foldl (fun m r => m.insert r.ledger r) p.state.ledgers }
    delta := { p.delta with ledgers := p.delta.ledgers ++ ledgers } }

/-- Refuse events that do not start after the last block of the state. -/
def checkFresh (s : AggregateState) (events : List Event) : Except AggregationError Unit :=
  match events.head?, s.lastBlockWithEvents with
  | some first, some last => if first.block ≤ last then .error (.stale first.block last) else .ok ()
  | _, _ => .ok ()

/-- Fold a window of events, in any order and with repetitions, and snapshots of ledgers. -/
def apply (a : EventAggregator) (s : AggregateState) (events : List Event)
    (ledgers : List LedgerRecord) : Except AggregationError AppliedWindow := do
  let events := Event.dropRepeats (Event.sortByKey events)
  checkFresh s events
  let p ← a.applyEvents (.start s) events
  let p := applySnapshots (countHolders p) ledgers
  return ⟨p.state, p.delta⟩

end EventAggregator
end StakingIndexer
