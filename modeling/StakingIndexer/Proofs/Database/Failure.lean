import Mathlib
import StakingIndexer.Proofs.Database.Cursors
import StakingIndexer.Proofs.Database.Frame

/-!
# Changes that fail

Whatever the tables hold, a change fails for reasons that can be told beforehand: a word that is
not a signed word, a count that would not be one, a text with a character of code zero, or two
validator records of one ledger.
-/

namespace StakingIndexer

namespace Action

variable {σ ε α β : Type} {p q : Prop} {P Q : σ → Prop} {s : σ}

/-- An action that succeeds if and only if a condition holds, and what holds of the state that it
leaves if it succeeds. -/
structure Decides (a : Action σ ε α) (s : σ) (p : Prop) (Q : σ → Prop) : Prop where
  isOk_iff : (a s).1.isOk = true ↔ p
  left : (a s).1.isOk = true → Q (a s).2

theorem Decides.congr {a : Action σ ε α} (h : a.Decides s p Q) (hpq : p ↔ q) :
    a.Decides s q Q := ⟨h.isOk_iff.trans hpq, h.left⟩

theorem Succeeds.decides {a : Action σ ε α} (h : a.Succeeds s Q) : a.Decides s True Q := by
  obtain ⟨v, t, hrun, ht⟩ := h
  constructor
  · rw [hrun]
    exact ⟨fun _ => trivial, fun _ => rfl⟩
  · rw [hrun]
    exact fun _ => ht

theorem decides_pure (v : α) (h : Q s) : (pure v : Action σ ε α).Decides s True Q :=
  Succeeds.decides (succeeds_pure h)

theorem decides_modify {f : σ → σ} (h : Q (f s)) :
    (modify f : Action σ ε Unit).Decides s True Q := Succeeds.decides (succeeds_modify h)

theorem decides_set {t : σ} (h : Q t) : (set t : Action σ ε PUnit).Decides s True Q :=
  Succeeds.decides ⟨(), t, rfl, h⟩

theorem decides_throw (e : ε) : (throw e : Action σ ε α).Decides s False Q :=
  ⟨⟨nofun, False.elim⟩, nofun⟩

theorem Decides.bind {a : Action σ ε α} {f : α → Action σ ε β} (ha : a.Decides s p P)
    (hf : ∀ v t, P t → (f v).Decides t q Q) : (a >>= f).Decides s (p ∧ q) Q := by
  obtain ⟨hok, hleft⟩ := ha
  have hrun := bind_eq a f s
  generalize a s = r at hok hleft hrun
  obtain ⟨e | v, t⟩ := r
  · have hnot : ¬ p := fun hp => nomatch hok.2 hp
    constructor
    · rw [hrun]
      exact ⟨nofun, fun h => absurd h.1 hnot⟩
    · rw [hrun]
      exact nofun
  · obtain ⟨hok', hleft'⟩ := hf v t (hleft rfl)
    have hyes : p := hok.1 rfl
    constructor
    · rw [hrun]
      exact hok'.trans ⟨fun hq => ⟨hyes, hq⟩, And.right⟩
    · rw [hrun]
      exact hleft'

theorem decides_forM {f : α → Action σ ε PUnit} {p : α → Prop}
    (h : ∀ a s, (f a).Decides s (p a) fun _ => True) (l : List α) (s : σ) :
    (l.forM f).Decides s (∀ a ∈ l, p a) fun _ => True := by
  induction l generalizing s with
  | nil => exact (decides_pure _ trivial).congr (by simp)
  | cons a l ih => exact ((h a s).bind fun _ t _ => ih t).congr (by simp)

end Action

open StakingIndexer.Action Column

namespace Column

theorem isOk_ofWord (n : UInt64) : (ofWord n).isOk = true ↔ Word.Fits n := by
  constructor
  · intro h
    cases hword : ofWord n with
    | error e => rw [hword] at h; cases h
    | ok i => exact (ofWord_eq_ok hword).1
  · intro h
    rw [ofWord_of_fits h]
    rfl

theorem isOk_bind {α β : Type} {c : Converted α} {f : α → Converted β} {p q : Prop}
    (hc : c.isOk = true ↔ p) (hf : ∀ a, (f a).isOk = true ↔ q) :
    (c >>= f).isOk = true ↔ p ∧ q := by
  cases c with
  | error e => exact ⟨nofun, fun h => nomatch hc.2 h.1⟩
  | ok a => exact (hf a).trans ⟨fun h => ⟨hc.1 rfl, h⟩, And.right⟩

theorem isOk_pure {α : Type} (a : α) : (pure a : Converted α).isOk = true ↔ True :=
  ⟨fun _ => trivial, fun _ => rfl⟩

theorem isOk_mapM_ofWord (o : Option UInt64) :
    (o.mapM ofWord).isOk = true ↔ Word.EachFits o := by
  cases o with
  | none => exact ⟨fun _ => nofun, fun _ => rfl⟩
  | some n =>
    rw [Option.mapM_some]
    have hread := isOk_bind (isOk_ofWord n) (f := fun i => pure (some i)) fun _ => isOk_pure _
    exact hread.trans ⟨fun h _ hm => Option.some.inj hm ▸ h.1, fun h => ⟨h n rfl, trivial⟩⟩

end Column

theorem AggregateColumns.isOk_ofDelta (d : AggregateDelta) :
    (ofDelta d).isOk = true ↔ d.WordsFit := by
  rw [AggregateDelta.wordsFit_iff]
  unfold ofDelta
  refine (isOk_bind (isOk_mapM_ofWord _) fun _ => isOk_bind (isOk_mapM_ofWord _) fun _ =>
    isOk_bind (isOk_mapM_ofWord _) fun _ => isOk_bind (isOk_mapM_ofWord _) fun _ =>
    isOk_bind (isOk_mapM_ofWord _) fun _ => isOk_bind (isOk_mapM_ofWord _) fun _ =>
    isOk_pure _).trans ?_
  rw [and_true]

theorem RelayLedgerRow.isOk_ofRecord (r : RelayLedgerRecord) :
    (ofRecord r).isOk = true ↔ r.Fits := by
  unfold ofRecord
  refine (isOk_bind (isOk_ofWord _) fun _ => isOk_bind (isOk_ofWord _) fun _ =>
    isOk_pure _).trans ?_
  rw [and_true]
  rfl

theorem ReportRow.isOk_ofReward (r : RewardRow) :
    (ofReward r).isOk = true ↔ Word.Fits r.block := by
  unfold ofReward
  exact (isOk_bind (isOk_ofWord _) fun _ => isOk_pure _).trans (iff_of_eq (and_true _))

namespace Tables

theorem isOk_checkText (s : String) : (checkText s).isOk = true ↔ Plain s := by
  unfold checkText Plain
  rw [← List.contains_iff_mem]
  split_ifs with h
  · exact ⟨nofun, fun hnot => absurd h hnot⟩
  · exact ⟨fun _ => h, fun _ => rfl⟩

theorem isOk_checkBinds (columns rows : Nat) :
    (checkBinds columns rows).isOk = true ↔ BindsFit columns rows := by
  unfold checkBinds
  split_ifs with h
  · exact ⟨fun _ => h, fun _ => rfl⟩
  · exact ⟨nofun, fun hfit => absurd hfit h⟩

/-- A count that is not negative is added unless the sum is too large. -/
theorem isOk_addCount (stored : Int64) {added : Int64} (h : 0 ≤ added.toInt) :
    (addCount stored added).isOk = true ↔ stored.toInt + added.toInt < 2 ^ 63 := by
  have hle := stored.le_toInt
  unfold addCount Word.signed?
  have hmin : Int64.minValue.toInt = -2 ^ 63 := rfl
  have hmax : Int64.maxValue.toInt = 2 ^ 63 - 1 := rfl
  split_ifs with hrange
  · exact ⟨fun _ => by omega, fun _ => rfl⟩
  · exact ⟨nofun, fun hlt => absurd ⟨by omega, by omega⟩ hrange⟩

/-! ## Statements -/

theorem decides_convert_bind {α β : Type} {c : Converted α} {f : α → Statement β} {t : Tables}
    {p q : Prop} {Q : Tables → Prop} (hc : c.isOk = true ↔ p)
    (hf : ∀ v, c = .ok v → (f v).Decides t q Q) : (convert c >>= f).Decides t (p ∧ q) Q := by
  have hrun := bind_eq (convert c) f t
  cases c with
  | error e =>
    constructor
    · rw [hrun]
      exact ⟨nofun, fun h => nomatch hc.2 h.1⟩
    · rw [hrun]
      exact nofun
  | ok v =>
    obtain ⟨hok, hleft⟩ := hf v rfl
    constructor
    · rw [hrun]
      exact hok.trans ⟨fun hq => ⟨hc.1 rfl, hq⟩, And.right⟩
    · rw [hrun]
      exact hleft

theorem decides_mapM_convert {α β : Type} {f : α → Converted β} {p : α → Prop}
    (h : ∀ a, (f a).isOk = true ↔ p a) (l : List α) (t : Tables) :
    (l.mapM fun a => convert (f a) : Statement (List β)).Decides t (∀ a ∈ l, p a) (· = t) := by
  induction l with
  | nil =>
    have hnil : (pure [] : Statement (List β)).Decides t True (· = t) := decides_pure _ rfl
    exact hnil.congr (by simp)
  | cons a l ih =>
    rw [List.mapM_cons]
    have hcons := decides_convert_bind (h a) fun v _ => ih.bind (q := True) (Q := (· = t))
      (f := fun vs => (pure (v :: vs) : Statement (List β)))
      fun vs u hu => decides_pure _ hu
    exact hcons.congr (by simp)

theorem decides_updateAggregate {chain : Chain} {f : AggregateRow → Converted AggregateRow}
    {p : AggregateRow → Prop} (h : ∀ r, (f r).isOk = true ↔ p r) (t : Tables) :
    (updateAggregate chain f).Decides t (∀ r ∈ t.aggregates, r.chain = chain.name → p r)
      fun _ => True := by
  have hrow : ∀ r : AggregateRow, (if r.chain = chain.name then f r else .ok r).isOk = true
      ↔ (r.chain = chain.name → p r) := by
    intro r
    split_ifs with hname
    · exact (h r).trans ⟨fun hp _ => hp, fun hp => hp hname⟩
    · exact ⟨fun _ hchain => absurd hchain hname, fun _ => rfl⟩
  have hrows := (decides_mapM_convert hrow t.aggregates t).bind
    (f := fun rows => (set { t with aggregates := rows } : Statement PUnit)) (q := True)
    (Q := fun _ => True) fun rows u _ => decides_set trivial
  have hboth := hrows.congr (iff_of_eq (and_true _))
  exact ⟨hboth.isOk_iff, hboth.left⟩

/-- Whether the counts of a chain's rows stay signed words. -/
def HasRoom (t : Tables) (chain : Chain) (c : CounterIncrements) : Prop :=
  c = {} ∨ Word.Fits c.depositedCount ∧ Word.Fits c.redeemedCount ∧
    ∀ r ∈ t.aggregates, r.chain = chain.name →
      r.depositedCount.toInt + c.depositedCount.toNat < 2 ^ 63 ∧
        r.redeemedCount.toInt + c.redeemedCount.toNat < 2 ^ 63

instance (t : Tables) (chain : Chain) (c : CounterIncrements) : Decidable (t.HasRoom chain c) :=
  inferInstanceAs (Decidable (_ ∨ _))

theorem decides_incrementAggregate (chain : Chain) (c : CounterIncrements) (t : Tables) :
    (incrementAggregate chain c).Decides t (t.HasRoom chain c) fun _ => True := by
  unfold incrementAggregate HasRoom
  split_ifs with hempty
  · exact (decides_pure _ trivial).congr (by simp [of_decide_eq_true hempty])
  · have hne : c ≠ {} := fun h => hempty (decide_eq_true h)
    refine (decides_convert_bind (isOk_ofWord _) fun deposits hdeposits =>
      decides_convert_bind (isOk_ofWord _) fun redeems hredeems =>
        decides_updateAggregate (p := fun r =>
          r.depositedCount.toInt + c.depositedCount.toNat < 2 ^ 63 ∧
            r.redeemedCount.toInt + c.redeemedCount.toNat < 2 ^ 63) (fun r => ?_) t).congr ?_
    · obtain ⟨hdfits, rfl⟩ := ofWord_eq_ok hdeposits
      obtain ⟨hrfits, rfl⟩ := ofWord_eq_ok hredeems
      have hd := Word.toInt_toInt64 hdfits
      have hr := Word.toInt_toInt64 hrfits
      refine (isOk_bind (isOk_addCount _ (by omega)) fun _ =>
        isOk_bind (isOk_addCount _ (by omega)) fun _ => isOk_pure _).trans ?_
      rw [hd, hr, and_true]
    · simp [hne]

theorem decides_ensureAggregate (chain : Chain) (c : CounterIncrements) (t : Tables) :
    (ensureAggregate chain).Decides t True fun u => u.HasRoom chain c ↔ t.HasRoom chain c := by
  refine decides_modify ?_
  split_ifs
  · rfl
  · unfold HasRoom
    refine or_congr_right (and_congr_right fun hd => and_congr_right fun hr => ?_)
    rw [List.forall_mem_append]
    refine and_iff_left fun r hmem _ => ?_
    cases List.mem_singleton.1 hmem
    have hzero : (0 : Int64).toInt = 0 := rfl
    unfold Word.Fits at hd hr
    exact ⟨by rw [hzero]; omega, by rw [hzero]; omega⟩

theorem overwriteAggregate_run (chain : Chain) (columns : AggregateColumns) (t : Tables) :
    overwriteAggregate chain columns t = (.ok (), { t with
      aggregates := t.aggregates.map fun r =>
        if r.chain = chain.name then columns.apply r else r }) := by
  rw [overwriteAggregate_eq]
  refine updateAggregate_eq fun r _ => ?_
  split_ifs <;> rfl

theorem decides_overwriteAggregate (chain : Chain) (columns : AggregateColumns)
    (c : CounterIncrements) (t : Tables) : (overwriteAggregate chain columns).Decides t True
      fun u => u.HasRoom chain c ↔ t.HasRoom chain c := by
  refine Succeeds.decides ⟨(), _, overwriteAggregate_run chain columns t, ?_⟩
  unfold HasRoom
  refine or_congr_right (and_congr_right fun _ => and_congr_right fun _ => ?_)
  simp only [List.mem_map, forall_exists_index, and_imp, forall_apply_eq_imp_iff₂]
  refine forall₂_congr fun r _ => ?_
  split_ifs <;> rfl

theorem decides_writeHolders (chain : Chain) (balances : AddressMap Amount) (t : Tables) :
    (writeHolders chain balances).Decides t (BindsFit 3 (held balances).length) fun _ => True :=
  ((decides_modify (Q := fun _ => True) trivial).bind fun _ _ _ =>
    decides_convert_bind (isOk_checkBinds _ _) fun _ _ => decides_modify trivial).congr (by simp)

theorem decides_insertReports (rewards : List RewardRow) (t : Tables) :
    (insertReports rewards).Decides t
      ((∀ r ∈ rewards, Word.Fits r.block) ∧ BindsFit 4 rewards.length) fun _ => True :=
  ((decides_mapM_convert ReportRow.isOk_ofReward rewards t).bind fun _ _ _ =>
    decides_convert_bind (isOk_checkBinds _ _) fun _ _ => decides_modify trivial).congr
      (by rw [and_true])

theorem decides_upsertRelayLedger (record : RelayLedgerRecord) (t : Tables) :
    (upsertRelayLedger record).Decides t (record.Fits ∧ Plain record.stash) fun _ => True := by
  have hrun : ∀ row, RelayLedgerRow.ofRecord record = .ok row → row.stash = record.stash := by
    intro row hrow
    have hfits := (RelayLedgerRow.isOk_ofRecord record).1 (by rw [hrow]; rfl)
    rw [RelayLedgerRow.ofRecord_of_fits hfits] at hrow
    cases hrow
    rfl
  refine (decides_convert_bind (RelayLedgerRow.isOk_ofRecord record) fun row hrow =>
    decides_convert_bind (p := Plain record.stash) ?_ fun _ _ =>
      decides_modify trivial).congr (by rw [and_true])
  rw [isOk_checkText, hrun row hrow]

theorem decides_replaceValidators (infos : List ValidatorsInfo) (t : Tables) :
    (replaceValidators infos).Decides t (BindsFit 4 infos.length ∧
      (infos.map (·.ledger)).Nodup ∧
        ∀ v ∈ infos, Plain v.stash ∧ ∀ w ∈ v.validators, Plain w) fun _ => True := by
  have htexts : ∀ (r : ValidatorsRow) (u : Tables), ((do
      convert (checkText r.stash)
      r.validators.forM fun v => convert (checkText v)) : Statement PUnit).Decides u
        (Plain r.stash ∧ ∀ w ∈ r.validators, Plain w) fun _ => True := fun r u =>
    decides_convert_bind (isOk_checkText _) fun _ _ => decides_forM
      (fun w s => ⟨isOk_checkText w, fun _ => trivial⟩) _ _
  have hledgers := ValidatorsRow.nodup_ledgers_ofInfo infos
  have hwrite : ∀ u : Tables, (if ((infos.map ValidatorsRow.ofInfo).map (·.ledger)).Nodup then
        modify fun t => { t with validators := infos.map ValidatorsRow.ofInfo }
      else throw (.query "ledger is repeated") : Statement PUnit).Decides u
        (infos.map (·.ledger)).Nodup fun _ => True := by
    intro u
    split_ifs with hnodup
    · exact (decides_modify trivial).congr (iff_of_true trivial (hledgers.1 hnodup))
    · exact (decides_throw _).congr (iff_of_false id (mt hledgers.2 hnodup))
  unfold replaceValidators
  refine ((decides_modify (Q := fun _ => True) trivial).bind fun _ u _ =>
    decides_convert_bind (isOk_checkBinds _ _) fun _ _ =>
    (decides_forM htexts _ u).bind fun _ u _ => hwrite u).congr ?_
  rw [true_and]
  refine and_congr_right fun _ => and_comm.trans (and_congr_right fun _ => ?_)
  simp only [List.forall_mem_map]
  rfl

/-- Whether the columns can hold what a change makes of the rows of its chain. -/
@[mk_iff] structure Accepts (t : Tables) (d : AggregateDelta) : Prop where
  counts : t.HasRoom d.chain d.counters
  binds : d.Bindable
  blocks : ∀ r ∈ d.rewardRows, Word.Fits r.block
  relayLedgers : ∀ r ∈ d.relayLedgers, r.Fits ∧ Plain r.stash
  validators : ∀ infos ∈ d.validatorsInfo, (infos.map (·.ledger)).Nodup ∧
    ∀ v ∈ infos, Plain v.stash ∧ ∀ w ∈ v.validators, Plain w

instance (t : Tables) (d : AggregateDelta) : Decidable (t.Accepts d) :=
  decidable_of_iff _ (accepts_iff t d).symm

theorem decides_replaceGiven (given : Option (List ValidatorsInfo)) (t : Tables) :
    (replaceGiven given).Decides t (∀ infos ∈ given, BindsFit 4 infos.length ∧
      (infos.map (·.ledger)).Nodup ∧
        ∀ v ∈ infos, Plain v.stash ∧ ∀ w ∈ v.validators, Plain w) fun _ => True := by
  cases given with
  | none => exact (decides_pure _ trivial).congr (by simp)
  | some infos => exact (decides_replaceValidators infos t).congr (by simp)

theorem decides_writeRecords (d : AggregateDelta) (t : Tables) :
    (writeRecords d).Decides t (d.Bindable ∧ (∀ r ∈ d.rewardRows, Word.Fits r.block) ∧
      (∀ r ∈ d.relayLedgers, r.Fits ∧ Plain r.stash) ∧
      ∀ infos ∈ d.validatorsInfo, (infos.map (·.ledger)).Nodup ∧
        ∀ v ∈ infos, Plain v.stash ∧ ∀ w ∈ v.validators, Plain w) fun _ => True := by
  have hledgers : ∀ u : Tables, (d.ledgers.forM upsertLedger).Decides u True fun _ => True :=
    fun u => (decides_forM (fun _ _ => decides_modify trivial) _ u).congr (by simp)
  unfold writeRecords
  refine ((decides_writeHolders d.chain d.holderBalances t).bind fun _ u _ =>
    (decides_insertReports d.rewardRows u).bind fun _ u _ =>
    (hledgers u).bind fun _ u _ =>
    (decides_forM decides_upsertRelayLedger d.relayLedgers u).bind fun _ u _ =>
    decides_replaceGiven d.validatorsInfo u).congr ?_
  rw [AggregateDelta.bindable_iff]
  simp only [true_and, forall₂_and]
  tauto

/-- A change is written if and only if the columns can hold it. -/
theorem decides_writeDelta (d : AggregateDelta) (columns : AggregateColumns) (t : Tables) :
    (writeDelta d columns).Decides t (t.Accepts d) fun _ => True := by
  rw [accepts_iff, writeDelta_eq]
  refine ((decides_ensureAggregate d.chain d.counters t).bind fun _ u hu =>
    (decides_overwriteAggregate d.chain columns d.counters u).bind fun _ v hv =>
    ((decides_incrementAggregate d.chain d.counters v).congr (hv.trans hu)).bind fun _ v _ =>
    decides_writeRecords d v).congr ?_
  simp only [true_and]

end Tables
end StakingIndexer
