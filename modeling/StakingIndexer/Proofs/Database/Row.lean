import Mathlib
import StakingIndexer.Database.Tables
import StakingIndexer.Proofs.Address
import StakingIndexer.Proofs.Database.Column

/-!
# Reading rows back

Every record whose words fit has a row that is read back as the record. Changing the columns of
an aggregate row is changing the state that it was written from, as long as the counts are signed
words and the totals are amounts.
-/

namespace StakingIndexer

/-- Whether a word, if there is one, is a signed word as well. -/
def Word.EachFits (o : Option UInt64) : Prop := ∀ n ∈ o, Fits n

namespace Word.EachFits

instance : (o : Option UInt64) → Decidable (EachFits o)
  | none => .isTrue fun _ h => by cases h
  | some n => decidable_of_iff (Fits n) ⟨fun h _ hm => Option.some.inj hm ▸ h, fun h => h n rfl⟩

theorem orElse {o p : Option UInt64} (ho : EachFits o) (hp : EachFits p) : EachFits (o <|> p) := by
  cases o with
  | none => exact hp
  | some m => exact ho

theorem getD {o : Option UInt64} {m : UInt64} (ho : EachFits o) (hm : Fits m) :
    Fits (o.getD m) := by
  cases o with
  | none => exact hm
  | some n => exact ho n rfl

end Word.EachFits

theorem Column.toAddress_toChecksum (a : Address) : Column.toAddress a.toChecksum = .ok a := by
  rw [toAddress, Address.parse?_toChecksum]

namespace Numeric

@[simp] theorem isSpecial_ofAmount (a : Amount) : (ofAmount a).isSpecial = false := rfl

@[simp] theorem isSpecial_ofSigned (a : SignedAmount) : (ofSigned a).isSpecial = false := rfl

theorem combine_add {a b : Amount} (h : a.toNat + b.toNat < Amount.size) :
    (ofAmount a).combine .add (ofAmount b) = ofAmount (a.satAdd b) := by
  have hsum : (a.satAdd b).toNat = a.toNat + b.toNat := by
    rw [Amount.toNat_satAdd]
    omega
  rw [ofAmount, ofAmount, ofAmount, hsum, Nat.cast_add]
  simp [combine, Decimal.add, Decimal.align, Decimal.ofInt, Decimal.weight]

theorem combine_sub (a b : Amount) :
    ((ofAmount a).combine .sub (ofAmount b)).combine .greatest .zero = ofAmount (a.satSub b) := by
  simp only [combine, ofAmount, zero, Decimal.sub, Decimal.add, Decimal.greatest, Decimal.le,
    Decimal.align, Decimal.ofInt, Decimal.zero, Decimal.weight, Amount.toNat_satSub]
  norm_num
  split_ifs with hle
  · congr 1
    omega
  · congr 1
    omega

end Numeric

namespace Tables

theorem addCount_eq {m n : UInt64} (h : m.toNat + n.toNat < 2 ^ 63) :
    addCount m.toInt64 n.toInt64 = .ok (m + n).toInt64 := by
  have hm : Word.Fits m := by unfold Word.Fits; omega
  have hn : Word.Fits n := by unfold Word.Fits; omega
  have hsum : (m + n).toNat = m.toNat + n.toNat := by
    rw [UInt64.toNat_add, Nat.mod_eq_of_lt (by omega)]
  have hfits : Word.Fits (m + n) := by unfold Word.Fits; omega
  have hsigned := Word.signed?_toNat hfits
  rw [hsum, Nat.cast_add] at hsigned
  rw [addCount, Word.toInt_toInt64 hm, Word.toInt_toInt64 hn, hsigned]

end Tables

namespace HolderRow

theorem toHolder_ofHolder (chain : Chain) (holder : Address) (balance : Amount) :
    (ofHolder chain holder balance).toHolder = .ok (holder, balance) := by
  rw [toHolder, ofHolder, Column.toAddress_toChecksum, Column.toAmount_ofAmount]
  rfl

end HolderRow

namespace ReportRow

/-- The row of a report that has a number. -/
def write (number : Nat) (r : RewardRow) : ReportRow where
  number
  ledger := r.ledger.toChecksum
  reward := .ofSigned r.reward
  balance := .ofAmount r.balance
  block := r.block.toInt64

theorem ofReward_of_fits {r : RewardRow} (h : Word.Fits r.block) :
    ofReward r = .ok (write 0 r) := by
  rw [ofReward, Column.ofWord_of_fits h]
  rfl

theorem toReward_write {r : RewardRow} (h : Word.Fits r.block) (number : Nat) :
    (write number r).toReward = .ok r := by
  rw [toReward, write, Column.toAddress_toChecksum, Column.toSigned_ofSigned,
    Column.toAmount_ofAmount, Column.toWord_toInt64 h]
  rfl

end ReportRow

namespace LedgerRow

theorem toRecord_ofRecord (r : LedgerRecord) : (ofRecord r).toRecord = .ok r := by
  simp only [toRecord, ofRecord, Column.toAddress_toChecksum, Column.toAmount_ofAmount,
    Column.toStatus_code]
  rfl

theorem numerics_ofRecord (r : LedgerRecord) :
    (ofRecord r).numerics.any Numeric.isSpecial = false := by
  simp [numerics, ofRecord]

end LedgerRow

def RelayLedgerRecord.Fits (r : RelayLedgerRecord) : Prop :=
  Word.Fits r.validatorsCount ∧ Word.Fits r.earliestEraForUnlocking

instance (r : RelayLedgerRecord) : Decidable r.Fits := inferInstanceAs (Decidable (_ ∧ _))

namespace RelayLedgerRow

def write (r : RelayLedgerRecord) : RelayLedgerRow where
  ledger := r.ledger.toChecksum
  stash := r.stash
  activeBalance := .ofAmount r.activeBalance
  totalBalance := .ofAmount r.totalBalance
  stashBalance := .ofAmount r.stashBalance
  stakeStatus := r.stakeStatus.code
  validatorsCount := r.validatorsCount.toInt64
  totalUnlockingBalance := .ofAmount r.totalUnlockingBalance
  earliestEraForUnlocking := r.earliestEraForUnlocking.toInt64

theorem ofRecord_of_fits {r : RelayLedgerRecord} (h : r.Fits) : ofRecord r = .ok (write r) := by
  rw [ofRecord, Column.ofWord_of_fits h.1, Column.ofWord_of_fits h.2]
  rfl

theorem toRecord_write {r : RelayLedgerRecord} (h : r.Fits) : (write r).toRecord = .ok r := by
  simp only [toRecord, write, Column.toAddress_toChecksum, Column.toAmount_ofAmount,
    Column.toStatus_code, Column.toWord_toInt64 h.1, Column.toWord_toInt64 h.2]
  rfl

theorem numerics_write (r : RelayLedgerRecord) :
    (write r).numerics.any Numeric.isSpecial = false := by
  simp [numerics, write]

end RelayLedgerRow

namespace ValidatorsRow

theorem toInfo_ofInfo (v : ValidatorsInfo) : (ofInfo v).toInfo = .ok v := by
  rw [toInfo, ofInfo, Column.toAddress_toChecksum, Column.toAmount_ofAmount]
  rfl

theorem nodup_ledgers_ofInfo (infos : List ValidatorsInfo) :
    ((infos.map ofInfo).map (·.ledger)).Nodup ↔ (infos.map (·.ledger)).Nodup := by
  have hinjective : Function.Injective Address.toChecksum := fun a b => Address.toChecksum_inj.1
  rw [List.map_map, ← List.nodup_map_iff hinjective, List.map_map]
  rfl

end ValidatorsRow

namespace AggregateState

/-- What the row of a state holds of it. -/
def core (s : AggregateState) : AggregateState :=
  { s with
    ledgers := .empty
    relayLedgers := .empty
    holderBalances := .empty
    recentRewards := .empty }

/-- Replace everything that a change replaces in the row of a state. -/
def replace (s : AggregateState) (d : AggregateDelta) : AggregateState :=
  { s.overwrite d.scalars with holdersNumber := d.holdersNumber.getD s.holdersNumber }

/-- Whether the words of a state are signed words. -/
structure WordsFit (s : AggregateState) : Prop where
  eraId : Word.EachFits s.eraId
  currentEraId : Word.EachFits s.currentEraId
  relayActiveEraId : Word.EachFits s.relay.activeEraId
  relayValidatorsCount : Word.EachFits s.relay.validatorsCount
  depositedCount : Word.Fits s.depositedCount
  redeemedCount : Word.Fits s.redeemedCount
  holdersNumber : Word.Fits s.holdersNumber
  lastBlockWithEvents : Word.EachFits s.lastBlockWithEvents

/-- Whether adding to the counters of a state stays within what a row can hold of them. -/
@[mk_iff] structure Counts (s : AggregateState) (c : CounterIncrements) : Prop where
  deposited : s.deposited.toNat + c.deposited.toNat < Amount.size
  redeemed : s.redeemed.toNat + c.redeemed.toNat < Amount.size
  depositedCount : s.depositedCount.toNat + c.depositedCount.toNat < 2 ^ 63
  redeemedCount : s.redeemedCount.toNat + c.redeemedCount.toNat < 2 ^ 63
  rewardsAggregated : s.rewardsAggregated.toNat + c.rewardsAggregated.toNat < Amount.size
  lossesAggregated : s.lossesAggregated.toNat + c.lossesAggregated.toNat < Amount.size
  bufferedDeposits : s.bufferedDeposits.toNat + c.bufferedDeposits.toNat < Amount.size

instance (s : AggregateState) (c : CounterIncrements) : Decidable (s.Counts c) :=
  decidable_of_iff _ (counts_iff s c).symm

theorem Counts.core {s : AggregateState} {c : CounterIncrements} (h : s.Counts c) :
    s.core.Counts c :=
  ⟨h.deposited, h.redeemed, h.depositedCount, h.redeemedCount, h.rewardsAggregated,
    h.lossesAggregated, h.bufferedDeposits⟩

theorem Counts.replace {s : AggregateState} {c : CounterIncrements} (h : s.Counts c)
    (d : AggregateDelta) : (s.replace d).Counts c :=
  ⟨h.deposited, h.redeemed, h.depositedCount, h.redeemedCount, h.rewardsAggregated,
    h.lossesAggregated, h.bufferedDeposits⟩

end AggregateState

/-- Whether the words that a change replaces are signed words. -/
@[mk_iff] structure AggregateDelta.WordsFit (d : AggregateDelta) : Prop where
  eraId : Word.EachFits d.scalars.eraId
  currentEraId : Word.EachFits d.scalars.currentEraId
  relayActiveEraId : Word.EachFits d.scalars.relayActiveEraId
  relayValidatorsCount : Word.EachFits d.scalars.relayValidatorsCount
  holdersNumber : Word.EachFits d.holdersNumber
  lastBlockWithEvents : Word.EachFits d.scalars.lastBlockWithEvents

instance (d : AggregateDelta) : Decidable d.WordsFit :=
  decidable_of_iff _ (AggregateDelta.wordsFit_iff d).symm

namespace Column

theorem mapM_ofWord {o : Option UInt64} (h : Word.EachFits o) :
    o.mapM ofWord = .ok (o.map UInt64.toInt64) := by
  cases o with
  | none => rfl
  | some n =>
    rw [Option.mapM_some, ofWord_of_fits (h n rfl)]
    rfl

theorem mapM_toWord {o : Option UInt64} (h : Word.EachFits o) :
    (o.map UInt64.toInt64).mapM toWord = .ok o := by
  cases o with
  | none => rfl
  | some n =>
    rw [Option.map_some, Option.mapM_some, toWord_toInt64 (h n rfl)]
    rfl

end Column

namespace AggregateRow

def write (chain : Chain) (s : AggregateState) : AggregateRow where
  chain := chain.name
  totalSupply := .ofAmount s.totalSupply
  totalSupplyUsd := s.totalSupplyUsd
  contractBufferedDeposits := .ofAmount s.contractBufferedDeposits
  contractBufferedRedeems := .ofAmount s.contractBufferedRedeems
  eraId := s.eraId.map UInt64.toInt64
  currentEraId := s.currentEraId.map UInt64.toInt64
  nextEraStartTime := s.nextEraStartTime
  relayActiveEraId := s.relay.activeEraId.map UInt64.toInt64
  relayNextEraStartTime := s.relay.nextEraStartTime
  relayValidatorsCount := s.relay.validatorsCount.map UInt64.toInt64
  relayTotalStaked := .ofAmount s.relay.totalStaked
  relayTotalIssuance := .ofAmount s.relay.totalIssuance
  aprPerMonth := s.aprPerMonth
  aprPerWeek := s.aprPerWeek
  inflationRate := s.inflationRate
  estimatedApy := s.estimatedApy
  bufferedDeposits := .ofAmount s.bufferedDeposits
  bufferedRedeems := .ofAmount s.bufferedRedeems
  deposited := .ofAmount s.deposited
  redeemed := .ofAmount s.redeemed
  depositedCount := s.depositedCount.toInt64
  redeemedCount := s.redeemedCount.toInt64
  rewardsAggregated := .ofAmount s.rewardsAggregated
  lossesAggregated := .ofAmount s.lossesAggregated
  holdersNumber := s.holdersNumber.toInt64
  lastBlockWithEvents := s.lastBlockWithEvents.map UInt64.toInt64
  apr := s.apr

theorem write_empty (chain : Chain) : write chain (.empty chain) = { chain := chain.name } := rfl

theorem toState_write {s : AggregateState} (h : s.WordsFit) (chain : Chain) :
    (write chain s).toState = .ok { s.core with chain } := by
  simp only [toState, write, Column.toChain_name, Column.toAmount_ofAmount,
    Column.mapM_toWord h.eraId, Column.mapM_toWord h.currentEraId,
    Column.mapM_toWord h.relayActiveEraId, Column.mapM_toWord h.relayValidatorsCount,
    Column.toWord_toInt64 h.depositedCount, Column.toWord_toInt64 h.redeemedCount,
    Column.toWord_toInt64 h.holdersNumber, Column.mapM_toWord h.lastBlockWithEvents]
  rfl

theorem numerics_write (chain : Chain) (s : AggregateState) :
    (write chain s).numerics.any Numeric.isSpecial = false := by
  simp [numerics, write]

end AggregateRow

namespace AggregateColumns

/-- The columns that a change replaces, if its words are signed words. -/
def write (d : AggregateDelta) : AggregateColumns where
  totalSupply := d.scalars.totalSupply.map .ofAmount
  totalSupplyUsd := d.scalars.totalSupplyUsd
  eraId := d.scalars.eraId.map UInt64.toInt64
  currentEraId := d.scalars.currentEraId.map UInt64.toInt64
  nextEraStartTime := d.scalars.nextEraStartTime
  relayActiveEraId := d.scalars.relayActiveEraId.map UInt64.toInt64
  relayNextEraStartTime := d.scalars.relayNextEraStartTime
  relayValidatorsCount := d.scalars.relayValidatorsCount.map UInt64.toInt64
  relayTotalStaked := d.scalars.relayTotalStaked.map .ofAmount
  relayTotalIssuance := d.scalars.relayTotalIssuance.map .ofAmount
  aprPerMonth := d.scalars.aprPerMonth
  aprPerWeek := d.scalars.aprPerWeek
  inflationRate := d.scalars.inflationRate
  estimatedApy := d.scalars.estimatedApy
  contractBufferedDeposits := d.scalars.contractBufferedDeposits.map .ofAmount
  contractBufferedRedeems := d.scalars.contractBufferedRedeems.map .ofAmount
  holdersNumber := d.holdersNumber.map UInt64.toInt64
  lastBlockWithEvents := d.scalars.lastBlockWithEvents.map UInt64.toInt64
  apr := d.scalars.apr

theorem ofDelta_of_fits {d : AggregateDelta} (h : d.WordsFit) : ofDelta d = .ok (write d) := by
  simp only [ofDelta, Column.mapM_ofWord h.eraId, Column.mapM_ofWord h.currentEraId,
    Column.mapM_ofWord h.relayActiveEraId, Column.mapM_ofWord h.relayValidatorsCount,
    Column.mapM_ofWord h.holdersNumber, Column.mapM_ofWord h.lastBlockWithEvents]
  rfl

theorem apply_of_isEmpty {c : AggregateColumns} (h : c.isEmpty) (r : AggregateRow) :
    c.apply r = r := by
  simp only [isEmpty, Bool.and_eq_true, Option.isNone_iff_eq_none] at h
  obtain ⟨⟨⟨⟨⟨⟨⟨⟨⟨⟨⟨⟨⟨⟨⟨⟨⟨⟨h1, h2⟩, h3⟩, h4⟩, h5⟩, h6⟩, h7⟩, h8⟩, h9⟩, h10⟩, h11⟩, h12⟩, h13⟩,
    h14⟩, h15⟩, h16⟩, h17⟩, h18⟩, h19⟩ := h
  simp [apply, *]

theorem getD_map {α β : Type} (f : α → β) (o : Option α) (a : α) :
    (o.map f).getD (f a) = f (o.getD a) := by cases o <;> rfl

theorem orElse_map {α β : Type} (f : α → β) (o p : Option α) :
    (o.map f <|> p.map f) = (o <|> p).map f := by cases o <;> rfl

/-- Replacing columns of a state's row replaces what they hold in the state. -/
theorem apply_write (d : AggregateDelta) (chain : Chain) (s : AggregateState) :
    (write d).apply (AggregateRow.write chain s) = AggregateRow.write chain (s.replace d) := by
  simp only [apply, write, AggregateRow.write, AggregateState.replace, AggregateState.overwrite,
    getD_map, orElse_map]

end AggregateColumns

namespace AggregateState

theorem wordsFit_empty (chain : Chain) : (empty chain).WordsFit := by
  constructor <;> simp [empty, Word.EachFits, Word.Fits]

theorem WordsFit.core {s : AggregateState} (h : s.WordsFit) : s.core.WordsFit :=
  ⟨h.eraId, h.currentEraId, h.relayActiveEraId, h.relayValidatorsCount, h.depositedCount,
    h.redeemedCount, h.holdersNumber, h.lastBlockWithEvents⟩

theorem WordsFit.replace {s : AggregateState} {d : AggregateDelta} (h : s.WordsFit)
    (hd : d.WordsFit) : (s.replace d).WordsFit where
  eraId := hd.eraId.orElse h.eraId
  currentEraId := hd.currentEraId.orElse h.currentEraId
  relayActiveEraId := hd.relayActiveEraId.orElse h.relayActiveEraId
  relayValidatorsCount := hd.relayValidatorsCount.orElse h.relayValidatorsCount
  depositedCount := h.depositedCount
  redeemedCount := h.redeemedCount
  holdersNumber := hd.holdersNumber.getD h.holdersNumber
  lastBlockWithEvents := hd.lastBlockWithEvents.orElse h.lastBlockWithEvents

theorem WordsFit.increment {s : AggregateState} {c : CounterIncrements} (h : s.WordsFit)
    (hc : s.Counts c) : (s.increment c).WordsFit where
  eraId := h.eraId
  currentEraId := h.currentEraId
  relayActiveEraId := h.relayActiveEraId
  relayValidatorsCount := h.relayValidatorsCount
  depositedCount := by
    have hsum := hc.depositedCount
    change (s.depositedCount + c.depositedCount).toNat < 2 ^ 63
    rw [UInt64.toNat_add]
    omega
  redeemedCount := by
    have hsum := hc.redeemedCount
    change (s.redeemedCount + c.redeemedCount).toNat < 2 ^ 63
    rw [UInt64.toNat_add]
    omega
  holdersNumber := h.holdersNumber
  lastBlockWithEvents := h.lastBlockWithEvents

end AggregateState
end StakingIndexer
