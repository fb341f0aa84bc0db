import Mathlib
import StakingIndexer.Proofs.Database.Failure

/-!
# Totals in tables

Decimal columns add up increments without a bound. The rows of the aggregates are those that the
changes would write without their increments, with the sums of the increments in place of the
counters. Such a row is read as long as the sums are amounts, and then it is read as the state in
memory has it.
-/

namespace StakingIndexer

open StakingIndexer.Action Column

/-- What the increments of changes add up to. Sums of amounts have no bound. -/
structure RunningTotals where
  deposited : Nat
  redeemed : Nat
  depositedCount : UInt64
  redeemedCount : UInt64
  rewardsAggregated : Nat
  lossesAggregated : Nat
  bufferedDeposits : Nat

namespace RunningTotals

def zero : RunningTotals := ⟨0, 0, 0, 0, 0, 0, 0⟩

def add (T : RunningTotals) (c : CounterIncrements) : RunningTotals where
  deposited := T.deposited + c.deposited.toNat
  redeemed := T.redeemed + c.redeemed.toNat
  depositedCount := T.depositedCount + c.depositedCount
  redeemedCount := T.redeemedCount + c.redeemedCount
  rewardsAggregated := T.rewardsAggregated + c.rewardsAggregated.toNat
  lossesAggregated := T.lossesAggregated + c.lossesAggregated.toNat
  bufferedDeposits := T.bufferedDeposits + c.bufferedDeposits.toNat

/-- The totals of the changes of a chain, which is given by its name. -/
def ofChain (name : String) (deltas : List AggregateDelta) : RunningTotals :=
  (deltas.filter (·.chain.name = name)).foldl (fun T d => T.add d.counters) zero

theorem ofChain_append (name : String) (deltas : List AggregateDelta) (d : AggregateDelta) :
    ofChain name (deltas ++ [d])
      = if d.chain.name = name then (ofChain name deltas).add d.counters
        else ofChain name deltas := by
  unfold ofChain
  rw [List.filter_append, List.foldl_append, List.filter_singleton]
  by_cases h : d.chain.name = name <;> simp [h]

theorem add_empty (T : RunningTotals) : T.add {} = T := by
  simp [add]

/-- Whether every sum of amounts is an amount. -/
@[mk_iff] structure Fits (T : RunningTotals) : Prop where
  deposited : T.deposited < Amount.size
  redeemed : T.redeemed < Amount.size
  rewardsAggregated : T.rewardsAggregated < Amount.size
  lossesAggregated : T.lossesAggregated < Amount.size
  bufferedDeposits : T.bufferedDeposits < Amount.size

instance (T : RunningTotals) : Decidable T.Fits := decidable_of_iff _ (fits_iff T).symm

theorem Fits.of_add {T : RunningTotals} {c : CounterIncrements} (h : (T.add c).Fits) : T.Fits where
  deposited := Nat.lt_of_le_of_lt (Nat.le_add_right ..) h.deposited
  redeemed := Nat.lt_of_le_of_lt (Nat.le_add_right ..) h.redeemed
  rewardsAggregated := Nat.lt_of_le_of_lt (Nat.le_add_right ..) h.rewardsAggregated
  lossesAggregated := Nat.lt_of_le_of_lt (Nat.le_add_right ..) h.lossesAggregated
  bufferedDeposits := Nat.lt_of_le_of_lt (Nat.le_add_right ..) h.bufferedDeposits

/-- Totals that are not amounts do not become amounts again. -/
theorem Fits.of_append {name : String} {deltas later : List AggregateDelta}
    (h : (ofChain name (deltas ++ later)).Fits) : (ofChain name deltas).Fits := by
  induction later using List.reverseRecOn with
  | nil => rwa [List.append_nil] at h
  | append_singleton later d ih =>
    rw [← List.append_assoc, ofChain_append] at h
    split_ifs at h with hname
    · exact ih h.of_add
    · exact ih h

/-- Whether the counts are signed words. -/
structure CountsFit (T : RunningTotals) : Prop where
  deposited : Word.Fits T.depositedCount
  redeemed : Word.Fits T.redeemedCount

/-- Whether the counts stay signed words when increments are added. -/
def Room (T : RunningTotals) (c : CounterIncrements) : Prop :=
  c = {} ∨ T.depositedCount.toNat + c.depositedCount.toNat < 2 ^ 63 ∧
    T.redeemedCount.toNat + c.redeemedCount.toNat < 2 ^ 63

theorem countsFit_zero : zero.CountsFit := ⟨by decide, by decide⟩

theorem fits_zero : zero.Fits := by decide

theorem CountsFit.add {T : RunningTotals} {c : CounterIncrements} (h : T.CountsFit)
    (hroom : T.Room c) : (T.add c).CountsFit := by
  obtain rfl | ⟨hdeposits, hredeems⟩ := hroom
  · rwa [add_empty]
  · constructor
    · change (T.depositedCount + c.depositedCount).toNat < 2 ^ 63
      rw [UInt64.toNat_add]
      omega
    · change (T.redeemedCount + c.redeemedCount).toNat < 2 ^ 63
      rw [UInt64.toNat_add]
      omega

end RunningTotals

/-- The counters of a state. -/
structure Counters where
  deposited : Amount
  redeemed : Amount
  depositedCount : UInt64
  redeemedCount : UInt64
  rewardsAggregated : Amount
  lossesAggregated : Amount
  bufferedDeposits : Amount
  bufferedRedeems : Amount
deriving DecidableEq

/-- Totals as counters that stop at the greatest amount. -/
def RunningTotals.clamped (T : RunningTotals) : Counters where
  deposited := .clampNat T.deposited
  redeemed := .clampNat T.redeemed
  depositedCount := T.depositedCount
  redeemedCount := T.redeemedCount
  rewardsAggregated := .clampNat T.rewardsAggregated
  lossesAggregated := .clampNat T.lossesAggregated
  bufferedDeposits := .clampNat T.bufferedDeposits
  bufferedRedeems := .zero

theorem Amount.clampNat_satAdd (n : Nat) (a : Amount) :
    (clampNat n).satAdd a = clampNat (n + a.toNat) := by
  apply Amount.ext
  rw [toNat_satAdd, toNat_clampNat, toNat_clampNat]
  omega

theorem Amount.satSub_zero_left (a : Amount) : zero.satSub a = zero := by
  apply Amount.ext
  rw [toNat_satSub]
  exact Nat.zero_sub _

namespace AggregateState

def counters (s : AggregateState) : Counters where
  deposited := s.deposited
  redeemed := s.redeemed
  depositedCount := s.depositedCount
  redeemedCount := s.redeemedCount
  rewardsAggregated := s.rewardsAggregated
  lossesAggregated := s.lossesAggregated
  bufferedDeposits := s.bufferedDeposits
  bufferedRedeems := s.bufferedRedeems

/-- In memory the counters are the totals, as far as these are amounts. -/
theorem counters_applyDelta {s : AggregateState} {T : RunningTotals}
    (h : s.counters = T.clamped) (d : AggregateDelta) :
    (s.applyDelta d).counters = (T.add d.counters).clamped := by
  simp only [counters, RunningTotals.clamped, Counters.mk.injEq] at h
  obtain ⟨h₁, h₂, h₃, h₄, h₅, h₆, h₇, h₈⟩ := h
  simp only [counters, applyDelta, increment, overwrite, RunningTotals.clamped, RunningTotals.add,
    h₁, h₂, h₃, h₄, h₅, h₆, h₇, h₈, Amount.clampNat_satAdd,
    Amount.satSub_zero_left]

def withTotals (s : AggregateState) (T : RunningTotals) : AggregateState :=
  { s with
    deposited := .clampNat T.deposited
    redeemed := .clampNat T.redeemed
    depositedCount := T.depositedCount
    redeemedCount := T.redeemedCount
    rewardsAggregated := .clampNat T.rewardsAggregated
    lossesAggregated := .clampNat T.lossesAggregated
    bufferedDeposits := .clampNat T.bufferedDeposits
    bufferedRedeems := .zero }

end AggregateState

theorem Column.isOk_of_ok {α : Type} {c : Converted α} {a : α} (h : c = .ok a) :
    c.isOk = true ↔ True := by
  rw [h]
  exact isOk_pure a

namespace Numeric

def ofNat (n : Nat) : Numeric := decimal (.ofInt n)

@[simp] theorem isSpecial_ofNat (n : Nat) : (ofNat n).isSpecial = false := rfl

@[simp] theorem isSpecial_zero : zero.isSpecial = false := rfl

theorem ofNat_add (n : Nat) (a : Amount) :
    (ofNat n).combine .add (ofAmount a) = ofNat (n + a.toNat) := by
  rw [ofNat, ofAmount, ofNat, Nat.cast_add]
  simp [combine, Decimal.add, Decimal.align, Decimal.ofInt, Decimal.weight]

theorem combine_sub_zero (a : Amount) :
    (zero.combine .sub (ofAmount a)).combine .greatest .zero = zero := by
  have hdrawn := combine_sub .zero a
  rw [Amount.satSub_zero_left] at hdrawn
  exact hdrawn

theorem ofNat_of_lt {n : Nat} (h : n < Amount.size) : ofNat n = ofAmount (.clampNat n) := by
  rw [ofNat, ofAmount, Amount.toNat_clampNat, Nat.min_eq_left (by omega)]

theorem isOk_toAmount_ofNat (n : Nat) : (toAmount (ofNat n)).isOk = true ↔ n < Amount.size := by
  have hnonneg : ¬ (n : Int) < 0 := by omega
  change (decimalAmount (.ofInt n)).isOk = true ↔ _
  rw [decimalAmount_eq, Decimal.trunc_ofInt, if_neg hnonneg, Int.toNat_natCast, Amount.ofNat?]
  split_ifs with h
  · exact ⟨fun _ => h, fun _ => rfl⟩
  · refine ⟨fun hok => ?_, fun hlt => absurd hlt h⟩
    cases hok

end Numeric

namespace AggregateRow

def withTotals (r : AggregateRow) (T : RunningTotals) : AggregateRow :=
  { r with
    deposited := .ofNat T.deposited
    redeemed := .ofNat T.redeemed
    depositedCount := T.depositedCount.toInt64
    redeemedCount := T.redeemedCount.toInt64
    rewardsAggregated := .ofNat T.rewardsAggregated
    lossesAggregated := .ofNat T.lossesAggregated
    bufferedDeposits := .ofNat T.bufferedDeposits
    bufferedRedeems := .zero }

theorem withTotals_write {T : RunningTotals} (h : T.Fits) (chain : Chain) (s : AggregateState) :
    (write chain s).withTotals T = write chain (s.withTotals T) := by
  simp only [withTotals, write, AggregateState.withTotals, Numeric.ofNat_of_lt h.deposited,
    Numeric.ofNat_of_lt h.redeemed, Numeric.ofNat_of_lt h.rewardsAggregated,
    Numeric.ofNat_of_lt h.lossesAggregated, Numeric.ofNat_of_lt h.bufferedDeposits]
  rfl

theorem isOk_toState_withTotals {T : RunningTotals} (hcounts : T.CountsFit) {s : AggregateState}
    (h : s.WordsFit) (chain : Chain) :
    ((write chain s).withTotals T).toState.isOk = true ↔ T.Fits := by
  have hamount : ∀ a, (toAmount (.ofAmount a)).isOk = true ↔ True :=
    fun a => isOk_of_ok (toAmount_ofAmount a)
  have hword : ∀ {n}, Word.Fits n → ((toWord n.toInt64).isOk = true ↔ True) :=
    fun hn => isOk_of_ok (toWord_toInt64 hn)
  have hwords : ∀ {o}, Word.EachFits o →
      (((o.map UInt64.toInt64).mapM toWord).isOk = true ↔ True) :=
    fun ho => isOk_of_ok (mapM_toWord ho)
  have hsum := Numeric.isOk_toAmount_ofNat
  unfold toState
  refine (isOk_bind (isOk_of_ok (toChain_name _)) fun _ =>
    isOk_bind (hamount _) fun _ => isOk_bind (hamount _) fun _ => isOk_bind (hamount _) fun _ =>
    isOk_bind (hwords h.eraId) fun _ => isOk_bind (hwords h.currentEraId) fun _ =>
    isOk_bind (hwords h.relayActiveEraId) fun _ =>
    isOk_bind (hwords h.relayValidatorsCount) fun _ =>
    isOk_bind (hamount _) fun _ => isOk_bind (hamount _) fun _ =>
    isOk_bind (hsum _) fun _ => isOk_bind (hamount .zero) fun _ =>
    isOk_bind (hsum _) fun _ => isOk_bind (hsum _) fun _ =>
    isOk_bind (hword hcounts.deposited) fun _ => isOk_bind (hword hcounts.redeemed) fun _ =>
    isOk_bind (hsum _) fun _ => isOk_bind (hsum _) fun _ =>
    isOk_bind (hword h.holdersNumber) fun _ => isOk_bind (hwords h.lastBlockWithEvents) fun _ =>
    isOk_pure _).trans ?_
  simp only [true_and, and_true]
  exact ⟨fun ⟨hbuffered, hdeposited, hredeemed, hrewards, hlosses⟩ =>
      ⟨hdeposited, hredeemed, hrewards, hlosses, hbuffered⟩,
    fun hT => ⟨hT.bufferedDeposits, hT.deposited, hT.redeemed, hT.rewardsAggregated,
      hT.lossesAggregated⟩⟩

theorem toState_withTotals {T : RunningTotals} (hfits : T.Fits) (hcounts : T.CountsFit)
    {s : AggregateState} (h : s.WordsFit) (chain : Chain) :
    ((write chain s).withTotals T).toState = .ok { (s.withTotals T).core with chain } := by
  have hwords : (s.withTotals T).WordsFit :=
    { h with depositedCount := hcounts.deposited, redeemedCount := hcounts.redeemed }
  rw [withTotals_write hfits, toState_write hwords]

theorem numerics_withTotals (chain : Chain) (s : AggregateState) (T : RunningTotals) :
    ((write chain s).withTotals T).numerics.any Numeric.isSpecial = false := by
  simp [numerics, withTotals, write]

end AggregateRow

theorem AggregateState.counts_empty {s : AggregateState} (h : s.WordsFit) : s.Counts {} where
  deposited := s.deposited.toNat_lt
  redeemed := s.redeemed.toNat_lt
  depositedCount := h.depositedCount
  redeemedCount := h.redeemedCount
  rewardsAggregated := s.rewardsAggregated.toNat_lt
  lossesAggregated := s.lossesAggregated.toNat_lt
  bufferedDeposits := s.bufferedDeposits.toNat_lt

/-- A change without its increments. -/
def AggregateDelta.quiet (d : AggregateDelta) : AggregateDelta := { d with counters := {} }

namespace Tables

/-- Tables with the totals of changes in place of the counters. -/
def tally (u : Tables) (deltas : List AggregateDelta) : Tables :=
  u.withAggregates (u.aggregates.map fun r => r.withTotals (.ofChain r.chain deltas))

theorem Frames.aggregates {α : Type} {s : Statement α} (h : Frames s) (t : Tables) :
    (s t).2.aggregates = t.aggregates :=
  congrArg (·.2.aggregates) (h t t.aggregates)

theorem Frames.tally {α : Type} {s : Statement α} (h : Frames s) (u : Tables)
    (deltas : List AggregateDelta) : s (u.tally deltas) = ((s u).1, (s u).2.tally deltas) := by
  rw [Tables.tally, Tables.tally, h.aggregates, h]

theorem ensureAggregate_tally {chain : Chain} {u : Tables} {deltas : List AggregateDelta}
    (h : ¬ u.aggregates.any (·.chain = chain.name) →
      RunningTotals.ofChain chain.name deltas = .zero) :
    ensureAggregate chain (u.tally deltas)
      = (.ok (), (ensureAggregate chain u).2.tally deltas) := by
  have hany : (u.tally deltas).aggregates.any (·.chain = chain.name)
      = u.aggregates.any (·.chain = chain.name) := List.any_map
  change (Except.ok (), ite _ _ _) = (Except.ok (), Tables.tally (ite _ _ _) deltas)
  rw [hany]
  split_ifs with hrow
  · rfl
  · have hnew : ({ chain := chain.name } : AggregateRow).withTotals
        (.ofChain chain.name deltas) = { chain := chain.name } := by
      rw [h hrow]
      rfl
    simp [tally, withAggregates, hnew]

theorem overwriteAggregate_tally (chain : Chain) (columns : AggregateColumns) (u : Tables)
    (deltas : List AggregateDelta) : overwriteAggregate chain columns (u.tally deltas)
      = (.ok (), (overwriteAggregate chain columns u).2.tally deltas) := by
  rw [overwriteAggregate_run, overwriteAggregate_run]
  simp only [tally, withAggregates, List.map_map]
  congr 2
  refine List.map_congr_left fun r _ => ?_
  simp only [Function.comp_apply]
  by_cases hname : r.chain = chain.name
  · rw [if_pos hname]
    exact if_pos hname
  · rw [if_neg hname]
    exact if_neg hname

theorem incrementAggregate_tally (u : Tables) {deltas : List AggregateDelta} {d : AggregateDelta}
    (hroom : (RunningTotals.ofChain d.chain.name deltas).Room d.counters) :
    incrementAggregate d.chain d.counters (u.tally deltas)
      = (.ok (), u.tally (deltas ++ [d])) := by
  unfold incrementAggregate
  split_ifs with hempty
  · have hsame : ∀ name, RunningTotals.ofChain name (deltas ++ [d])
        = RunningTotals.ofChain name deltas := by
      intro name
      rw [RunningTotals.ofChain_append, of_decide_eq_true hempty, RunningTotals.add_empty, ite_self]
    simp only [tally, hsame]
    rfl
  · obtain h | ⟨hdeposits, hredeems⟩ := hroom
    · exact absurd (decide_eq_true h) hempty
    have hd : Word.Fits d.counters.depositedCount := by unfold Word.Fits; omega
    have hr : Word.Fits d.counters.redeemedCount := by unfold Word.Fits; omega
    rw [bind_eq, convert, ofWord_of_fits hd]
    dsimp only
    rw [bind_eq, convert, ofWord_of_fits hr]
    dsimp only
    rw [updateAggregate_eq (g := fun r => r.withTotals (.ofChain r.chain (deltas ++ [d])))]
    · simp only [tally, withAggregates, List.map_map]
      rfl
    · intro r hmem
      obtain ⟨r, -, rfl⟩ := List.mem_map.1 hmem
      change ite (r.chain = d.chain.name) _ _ = Except.ok (r.withTotals (.ofChain r.chain _))
      rw [RunningTotals.ofChain_append]
      split_ifs with h₁ h₂ h₂
      · rw [h₁]
        simp only [AggregateRow.withTotals, addCount_eq hdeposits, addCount_eq hredeems,
          Numeric.ofNat_add, Numeric.combine_sub_zero]
        rfl
      · exact absurd h₁.symm h₂
      · exact absurd h₂.symm h₁
      · rfl

/-- Tables that hold what changes lead to: contents without counters, and the totals. -/
structure Tallies (t : Tables) (deltas : List AggregateDelta) (u : Tables) (k : Contents) :
    Prop where
  tables : t = u.tally deltas
  holds : u.Holds k
  written : ∀ chain, (k.states chain).isSome ↔ ∃ d ∈ deltas, d.chain = chain
  countsFit : ∀ chain : Chain, (RunningTotals.ofChain chain.name deltas).CountsFit

theorem tallies_empty : empty.Tallies [] empty .empty where
  tables := rfl
  holds := holds_empty
  written chain := by simp [Contents.empty]
  countsFit _ := RunningTotals.countsFit_zero

namespace Tallies

variable {t u : Tables} {deltas : List AggregateDelta} {k : Contents}
  (h : t.Tallies deltas u k)
include h

theorem writeCursor (c : ScanCursor) :
    (t.writeCursor c).Tallies deltas (u.writeCursor c) k where
  tables := by
    rw [h.tables]
    rfl
  holds := h.holds.of_cursors _
  written := h.written
  countsFit := h.countsFit

theorem ofChain_eq_zero {chain : Chain} (hnone : k.states chain = none) :
    RunningTotals.ofChain chain.name deltas = .zero := by
  have hno : deltas.filter (·.chain.name = chain.name) = [] := by
    rw [List.filter_eq_nil_iff]
    intro d hd hname
    have hsome := (h.written chain).2 ⟨d, hd, Chain.name_inj.1 (of_decide_eq_true hname)⟩
    rw [hnone] at hsome
    cases hsome
  rw [RunningTotals.ofChain, hno]
  rfl

theorem find?_aggregates (chain : Chain) : t.aggregates.find? (·.chain = chain.name)
    = (k.states chain).map fun s =>
        (AggregateRow.write chain s).withTotals (.ofChain chain.name deltas) := by
  rw [h.tables]
  change (u.aggregates.map _).find? _ = _
  rw [List.find?_map]
  change (u.aggregates.find? (·.chain = chain.name)).map _ = _
  rw [h.holds.find?_aggregates, Option.map_map]
  rfl

theorem room {d : AggregateDelta} (hroom : t.HasRoom d.chain d.counters) :
    (RunningTotals.ofChain d.chain.name deltas).Room d.counters := by
  obtain hempty | ⟨hdeposits, hredeems, hrows⟩ := hroom
  · exact .inl hempty
  · refine .inr ?_
    have hfind := h.find?_aggregates d.chain
    have hcounts := h.countsFit d.chain
    cases hstate : k.states d.chain with
    | none =>
      rw [h.ofChain_eq_zero hstate]
      unfold Word.Fits at hdeposits hredeems
      simpa [RunningTotals.zero] using ⟨hdeposits, hredeems⟩
    | some s =>
      rw [hstate] at hfind
      obtain ⟨hd, hr⟩ := hrows _ (List.mem_of_find?_eq_some hfind) rfl
      have hd' := Word.toInt_toInt64 hcounts.deposited
      have hr' := Word.toInt_toInt64 hcounts.redeemed
      change (RunningTotals.ofChain _ _).depositedCount.toInt64.toInt + _ < _ at hd
      change (RunningTotals.ofChain _ _).redeemedCount.toInt64.toInt + _ < _ at hr
      omega

theorem accepts_quiet {d : AggregateDelta} (hwords : d.WordsFit) (haccepts : t.Accepts d) :
    k.Accepts d.quiet where
  words := ⟨hwords.1, hwords.2, hwords.3, hwords.4, hwords.5, hwords.6⟩
  counts := by
    unfold Contents.before
    cases hstate : k.states d.quiet.chain with
    | none => exact AggregateState.counts_empty (AggregateState.wordsFit_empty _)
    | some s => exact AggregateState.counts_empty (h.holds.wordsFit _ s hstate)
  binds := ⟨haccepts.binds.holders, haccepts.binds.reports, haccepts.binds.validators⟩
  blocks := haccepts.blocks
  relayLedgers := haccepts.relayLedgers
  validators := haccepts.validators

theorem written_append (d : AggregateDelta) (chain : Chain) :
    ((k.write d.quiet).states chain).isSome ↔ ∃ e ∈ deltas ++ [d], e.chain = chain := by
  rw [Contents.states_write]
  change Option.isSome (ite (chain = d.chain) _ _) ↔ _
  split_ifs with hchain
  · exact ⟨fun _ => ⟨d, by simp, hchain.symm⟩, fun _ => rfl⟩
  · rw [h.written]
    simp [Ne.symm hchain]

theorem countsFit_append {d : AggregateDelta}
    (hroom : (RunningTotals.ofChain d.chain.name deltas).Room d.counters) (chain : Chain) :
    (RunningTotals.ofChain chain.name (deltas ++ [d])).CountsFit := by
  rw [RunningTotals.ofChain_append]
  split_ifs with hname
  · rw [← hname]
    exact (h.countsFit d.chain).add hroom
  · exact h.countsFit chain

/-- A change is written as it would be without its increments, and these are added. -/
theorem writeDelta {d : AggregateDelta} (hwords : d.WordsFit) (haccepts : t.Accepts d) :
    ∃ t' u', Tables.writeDelta d (.write d) t = (.ok (), t') ∧
      t'.Tallies (deltas ++ [d]) u' (k.write d.quiet) := by
  have hroom := h.room haccepts.counts
  obtain ⟨_, u', hwrite, hholds⟩ := h.holds.writeDelta (h.accepts_quiet hwords haccepts)
  have hensure : ensureAggregate d.chain u = (.ok (), (ensureAggregate d.chain u).2) := rfl
  have hoverwrite := overwriteAggregate_run d.chain (.write d) (ensureAggregate d.chain u).2
  have hquiet := writeDelta_of_row (d := d.quiet) hensure hoverwrite rfl
  have hnew : ¬ u.aggregates.any (·.chain = d.chain.name) →
      RunningTotals.ofChain d.chain.name deltas = .zero := by
    intro hany
    have hfind := h.holds.find?_aggregates d.chain
    rw [List.find?_eq_none.2 (by simpa using hany)] at hfind
    exact h.ofChain_eq_zero (Option.map_eq_none_iff.1 hfind.symm)
  have hloud := writeDelta_of_row (ensureAggregate_tally hnew)
    (overwriteAggregate_tally d.chain (.write d) _ deltas) (incrementAggregate_tally _ hroom)
  have hrecords : writeRecords d _ = (.ok _, u') := hquiet.symm.trans hwrite
  rw [← h.tables, (frames_writeRecords d).tally, hoverwrite, hrecords] at hloud
  exact ⟨_, u', hloud, rfl, hholds, h.written_append d, h.countsFit_append hroom⟩

theorem loadAggregate (chain : Chain) : Tables.loadAggregate chain t
    = (((k.states chain).map fun s =>
        (AggregateRow.write chain s).withTotals (.ofChain chain.name deltas)).mapM
          AggregateRow.toState, t) := by
  refine loadAggregate_of_find? (h.find?_aggregates chain) fun r hr => ?_
  obtain ⟨s, -, rfl⟩ := Option.map_eq_some_iff.1 hr
  exact AggregateRow.numerics_withTotals chain s _

theorem loadState_of_fits {chain : Chain} {s : AggregateState} (hstate : k.states chain = some s)
    (hfits : (RunningTotals.ofChain chain.name deltas).Fits) :
    ∃ s', Tables.loadState chain t = (.ok (some s'), t) ∧
      s'.counters = (RunningTotals.ofChain chain.name deltas).clamped := by
  let full := s.withTotals (.ofChain chain.name deltas)
  have hcomplete : completeState chain { full.core with chain } t
      = (.ok (k.complete full chain), t) := by
    have hframed := (frames_completeState chain { full.core with chain }).tally u deltas
    rwa [h.holds.completeState, ← h.tables] at hframed
  rw [loadState_eq, h.loadAggregate, hstate, Option.map_some, Option.mapM_some,
    AggregateRow.toState_withTotals hfits (h.countsFit chain) (h.holds.wordsFit chain s hstate)]
  refine ⟨k.complete full chain, ?_, by cases chain <;> rfl⟩
  change (some <$> completeState chain { full.core with chain }) t = _
  rw [map_eq, hcomplete]

theorem loadState_of_not_fits {chain : Chain} {s : AggregateState}
    (hstate : k.states chain = some s)
    (hfits : ¬ (RunningTotals.ofChain chain.name deltas).Fits) :
    ∃ e, Tables.loadState chain t = (.error e, t) := by
  have hfailed := mt (AggregateRow.isOk_toState_withTotals (h.countsFit chain)
    (h.holds.wordsFit chain s hstate) chain).1 hfits
  rw [loadState_eq, h.loadAggregate, hstate, Option.map_some, Option.mapM_some]
  cases hrow : AggregateRow.toState _ with
  | error e => exact ⟨e, rfl⟩
  | ok state =>
    rw [hrow] at hfailed
    exact absurd rfl hfailed

/-- The state of a chain is read if and only if its totals are amounts, and they are the counters
that are read. -/
theorem loadState (chain : Chain) :
    ((∃ s, (Tables.loadState chain t).1 = .ok s) ↔
        (RunningTotals.ofChain chain.name deltas).Fits) ∧
      ∀ s, (Tables.loadState chain t).1 = .ok s →
        s.map AggregateState.counters
          = (k.states chain).map fun _ => (RunningTotals.ofChain chain.name deltas).clamped := by
  cases hstate : k.states chain with
  | none =>
    have hnone : Tables.loadState chain t = (.ok none, t) := by
      rw [loadState_eq, h.loadAggregate, hstate]
      rfl
    rw [hnone, h.ofChain_eq_zero hstate]
    refine ⟨⟨fun _ => RunningTotals.fits_zero, fun _ => ⟨none, rfl⟩⟩, fun s hs => ?_⟩
    cases hs
    rfl
  | some s =>
    by_cases hfits : (RunningTotals.ofChain chain.name deltas).Fits
    · obtain ⟨s', hload, hcounters⟩ := h.loadState_of_fits hstate hfits
      rw [hload]
      refine ⟨⟨fun _ => hfits, fun _ => ⟨some s', rfl⟩⟩, fun s hs => ?_⟩
      cases hs
      exact congrArg some hcounters
    · obtain ⟨e, hload⟩ := h.loadState_of_not_fits hstate hfits
      rw [hload]
      refine ⟨⟨?_, fun hyes => absurd hyes hfits⟩, fun s hs => by cases hs⟩
      rintro ⟨s, hs⟩
      cases hs

end Tallies
end Tables
end StakingIndexer
