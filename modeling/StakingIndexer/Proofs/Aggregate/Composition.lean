import Mathlib
import StakingIndexer.Aggregate.Delta
import StakingIndexer.Proofs.AddressMap

/-!
# Composing changes

One change behind another is a change again: counters add up, and of scalars, balances and
records the later ones stay. Applying the composition is applying both in turn, from every
state, although counters stop at the ends of their range.
-/

namespace StakingIndexer

namespace Amount

@[simp] theorem satAdd_zero (a : Amount) : a.satAdd zero = a := by
  have ha := a.toNat_lt
  apply Amount.ext
  simp only [toNat_satAdd, toNat_zero]
  omega

@[simp] theorem zero_satAdd (a : Amount) : zero.satAdd a = a := by
  have ha := a.toNat_lt
  apply Amount.ext
  simp only [toNat_satAdd, toNat_zero]
  omega

theorem satAdd_assoc (a b c : Amount) : (a.satAdd b).satAdd c = a.satAdd (b.satAdd c) := by
  apply Amount.ext
  simp only [toNat_satAdd]
  omega

@[simp] theorem satSub_zero (a : Amount) : a.satSub zero = a := rfl

/-- A sum that stops at the greatest balance still takes off everything there can be. -/
theorem satSub_satAdd (a b c : Amount) : a.satSub (b.satAdd c) = (a.satSub b).satSub c := by
  have ha := a.toNat_lt
  apply Amount.ext
  simp only [toNat_satSub, toNat_satAdd]
  omega

end Amount

namespace CounterIncrements

def add (c d : CounterIncrements) : CounterIncrements where
  deposited := c.deposited.satAdd d.deposited
  redeemed := c.redeemed.satAdd d.redeemed
  depositedCount := c.depositedCount + d.depositedCount
  redeemedCount := c.redeemedCount + d.redeemedCount
  rewardsAggregated := c.rewardsAggregated.satAdd d.rewardsAggregated
  lossesAggregated := c.lossesAggregated.satAdd d.lossesAggregated
  bufferedDeposits := c.bufferedDeposits.satAdd d.bufferedDeposits
  bufferedRedeemsDrawn := c.bufferedRedeemsDrawn.satAdd d.bufferedRedeemsDrawn

@[simp] theorem add_empty (c : CounterIncrements) : c.add {} = c := by
  simp [add]

@[simp] theorem empty_add (c : CounterIncrements) : add {} c = c := by
  simp [add]

theorem add_assoc (c d e : CounterIncrements) : (c.add d).add e = c.add (d.add e) := by
  simp [add, Amount.satAdd_assoc, UInt64.add_assoc]

end CounterIncrements

namespace ScalarOverwrites

/-- The later replacement of each scalar that has one. -/
def andThen (o p : ScalarOverwrites) : ScalarOverwrites where
  totalSupply := p.totalSupply <|> o.totalSupply
  totalSupplyUsd := p.totalSupplyUsd <|> o.totalSupplyUsd
  contractBufferedDeposits := p.contractBufferedDeposits <|> o.contractBufferedDeposits
  contractBufferedRedeems := p.contractBufferedRedeems <|> o.contractBufferedRedeems
  eraId := p.eraId <|> o.eraId
  currentEraId := p.currentEraId <|> o.currentEraId
  nextEraStartTime := p.nextEraStartTime <|> o.nextEraStartTime
  relayActiveEraId := p.relayActiveEraId <|> o.relayActiveEraId
  relayNextEraStartTime := p.relayNextEraStartTime <|> o.relayNextEraStartTime
  relayValidatorsCount := p.relayValidatorsCount <|> o.relayValidatorsCount
  relayTotalStaked := p.relayTotalStaked <|> o.relayTotalStaked
  relayTotalIssuance := p.relayTotalIssuance <|> o.relayTotalIssuance
  lastBlockWithEvents := p.lastBlockWithEvents <|> o.lastBlockWithEvents
  apr := p.apr <|> o.apr
  aprPerMonth := p.aprPerMonth <|> o.aprPerMonth
  aprPerWeek := p.aprPerWeek <|> o.aprPerWeek
  inflationRate := p.inflationRate <|> o.inflationRate
  estimatedApy := p.estimatedApy <|> o.estimatedApy

@[simp] theorem andThen_empty (o : ScalarOverwrites) : o.andThen {} = o := by
  simp [andThen]

@[simp] theorem empty_andThen (o : ScalarOverwrites) : andThen {} o = o := by
  simp [andThen]

end ScalarOverwrites

namespace AggregateDelta

/-- The change that two changes of one chain make together. -/
def andThen (d e : AggregateDelta) : AggregateDelta where
  chain := d.chain
  counters := d.counters.add e.counters
  scalars := d.scalars.andThen e.scalars
  holderBalances := d.holderBalances.union e.holderBalances
  holdersNumber := e.holdersNumber <|> d.holdersNumber
  rewardRows := d.rewardRows ++ e.rewardRows
  ledgers := d.ledgers ++ e.ledgers
  relayLedgers := d.relayLedgers ++ e.relayLedgers
  validatorsInfo := e.validatorsInfo <|> d.validatorsInfo

@[simp] theorem andThen_empty (d : AggregateDelta) (c : Chain) :
    d.andThen { chain := c } = d := by
  simp [andThen, AddressMap.union_empty]

end AggregateDelta

attribute [ext] AggregateState

namespace AggregateState

@[simp] theorem increment_empty (s : AggregateState) : s.increment {} = s := by
  simp [increment]

theorem increment_add (s : AggregateState) (c d : CounterIncrements) :
    s.increment (c.add d) = (s.increment c).increment d := by
  simp [increment, CounterIncrements.add, Amount.satAdd_assoc, Amount.satSub_satAdd,
    UInt64.add_assoc]

@[simp] theorem overwrite_empty (s : AggregateState) : s.overwrite {} = s := by
  simp [overwrite]

theorem overwrite_andThen (s : AggregateState) (o p : ScalarOverwrites) :
    s.overwrite (o.andThen p) = (s.overwrite o).overwrite p := by
  simp [overwrite, ScalarOverwrites.andThen, Option.getD_or, Option.or_assoc]

theorem get?_setBalance (m : AddressMap Amount) (k : Address) (v : Amount) (j : Address) :
    (setBalance m k v).get? j
      = if j = k then (if v.isZero then none else some v) else m.get? j := by
  unfold setBalance
  by_cases hv : v.isZero <;> simp [hv]

def setBalances (m written : AddressMap Amount) : AddressMap Amount :=
  AddressMap.writeAll setBalance m written

@[simp] theorem setBalances_empty (m : AddressMap Amount) : setBalances m .empty = m := rfl

theorem setBalances_insert (m written : AddressMap Amount) (k : Address) (v : Amount) :
    setBalances m (written.insert k v) = setBalance (setBalances m written) k v :=
  AddressMap.writeAll_insert get?_setBalance m written k v

theorem setBalances_union (m written later : AddressMap Amount) :
    setBalances m (written.union later) = setBalances (setBalances m written) later :=
  AddressMap.writeAll_union get?_setBalance m written later

theorem applyDelta_eq (s : AggregateState) (d : AggregateDelta) :
    s.applyDelta d =
      { (s.overwrite d.scalars).increment d.counters with
        holderBalances := setBalances s.holderBalances d.holderBalances
        holdersNumber := d.holdersNumber.getD s.holdersNumber
        ledgers := d.ledgers.foldl (fun m r => m.insert r.ledger r) s.ledgers
        relayLedgers := d.relayLedgers.foldl (fun m r => m.insert r.ledger r) s.relayLedgers } :=
  rfl

@[simp] theorem applyDelta_empty (s : AggregateState) (c : Chain) :
    s.applyDelta { chain := c } = s := by
  rw [applyDelta_eq]
  simp

/-- A composed change is both changes in turn. -/
theorem applyDelta_andThen (s : AggregateState) (d e : AggregateDelta) :
    s.applyDelta (d.andThen e) = (s.applyDelta d).applyDelta e := by
  simp only [applyDelta_eq, AggregateDelta.andThen, overwrite_andThen, increment_add,
    setBalances_union, List.foldl_append]
  ext <;> simp [overwrite, increment, Option.getD_or]

end AggregateState
end StakingIndexer
