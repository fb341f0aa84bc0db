import Mathlib
import StakingIndexer.Proofs.Aggregate.Composition
import StakingIndexer.Proofs.Database.Entries
import StakingIndexer.Proofs.Database.Row
import StakingIndexer.Proofs.Reader.Answers

/-!
# Contents of tables

What tables hold is told without rows: states by chain, balances by chain and holder, records by
ledger, and the reports and validators as they were written. Each statement of a change does to
the contents what its part of the change says, and none of them fails as long as the columns can
hold what it writes.
-/

namespace StakingIndexer

namespace Action

variable {σ ε α β : Type} {P Q : σ → Prop} {s : σ}

/-- An action that does not fail, with what holds of the state that it leaves. -/
def Succeeds (a : Action σ ε α) (s : σ) (Q : σ → Prop) : Prop := ∃ v t, a s = (.ok v, t) ∧ Q t

theorem succeeds_pure {v : α} (h : Q s) : (pure v : Action σ ε α).Succeeds s Q := ⟨v, s, rfl, h⟩

theorem succeeds_modify {f : σ → σ} (h : Q (f s)) : (modify f : Action σ ε Unit).Succeeds s Q :=
  ⟨(), f s, rfl, h⟩

theorem Succeeds.bind {a : Action σ ε α} {f : α → Action σ ε β} (ha : a.Succeeds s P)
    (hf : ∀ v t, P t → (f v).Succeeds t Q) : (a >>= f).Succeeds s Q := by
  obtain ⟨v, t, hrun, ht⟩ := ha
  obtain ⟨w, u, hrest, hu⟩ := hf v t ht
  refine ⟨w, u, ?_, hu⟩
  rw [bind_eq, hrun]
  exact hrest

theorem succeeds_forM {f : α → Action σ ε PUnit} {l : List α}
    (h : ∀ a ∈ l, ∀ s, Q s → (f a).Succeeds s Q) (hs : Q s) : (l.forM f).Succeeds s Q := by
  induction l generalizing s with
  | nil => exact succeeds_pure hs
  | cons a l ih =>
    refine (h a (by simp) s hs).bind fun _ t ht => ?_
    exact ih (fun b hb => h b (by simp [hb])) ht

end Action

open StakingIndexer.Action Column

/-- What tables hold besides the cursors. Of the state of a chain it is as much as its row
holds, and reports are in the order of insertion. -/
@[ext] structure Contents where
  states : Chain → Option AggregateState
  holders : Chain → AddressMap Amount
  ledgers : AddressMap LedgerRecord
  relayLedgers : AddressMap RelayLedgerRecord
  rewards : List RewardRow
  validators : List ValidatorsInfo

/-- A text that a column can hold. -/
def Column.Plain (s : String) : Prop := '\x00' ∉ s.toList

instance (s : String) : Decidable (Plain s) := inferInstanceAs (Decidable (¬ _))

/-- Whether one statement for each table can write a change. -/
@[mk_iff] structure AggregateDelta.Bindable (d : AggregateDelta) : Prop where
  holders : Tables.BindsFit 3 (Tables.held d.holderBalances).length
  reports : Tables.BindsFit 4 d.rewardRows.length
  validators : ∀ infos ∈ d.validatorsInfo, Tables.BindsFit 4 infos.length

instance (d : AggregateDelta) : Decidable d.Bindable :=
  decidable_of_iff _ (AggregateDelta.bindable_iff d).symm

namespace Contents

def empty : Contents := ⟨fun _ => none, fun _ => .empty, .empty, .empty, [], []⟩

/-- The state to which a change is applied. -/
def before (k : Contents) (chain : Chain) : AggregateState :=
  (k.states chain).getD (.empty chain)

def write (k : Contents) (d : AggregateDelta) : Contents where
  states := Function.update k.states d.chain
    (some (((k.before d.chain).replace d).increment d.counters))
  holders := Function.update k.holders d.chain
    (AggregateState.setBalances (k.holders d.chain) d.holderBalances)
  ledgers := d.ledgers.foldl (fun m r => m.insert r.ledger r) k.ledgers
  relayLedgers := d.relayLedgers.foldl (fun m r => m.insert r.ledger r) k.relayLedgers
  rewards := k.rewards ++ d.rewardRows
  validators := d.validatorsInfo.getD k.validators

theorem states_write (k : Contents) (d : AggregateDelta) (chain : Chain) :
    (k.write d).states chain
      = if chain = d.chain then some (((k.before d.chain).replace d).increment d.counters)
        else k.states chain := Function.update_apply ..

theorem holders_write (k : Contents) (d : AggregateDelta) (chain : Chain) :
    (k.write d).holders chain
      = if chain = d.chain then AggregateState.setBalances (k.holders d.chain) d.holderBalances
        else k.holders chain := Function.update_apply ..

/-- Whether the columns can hold what a change makes of the contents. -/
structure Accepts (k : Contents) (d : AggregateDelta) : Prop where
  words : d.WordsFit
  counts : (k.before d.chain).Counts d.counters
  binds : d.Bindable
  blocks : ∀ r ∈ d.rewardRows, Word.Fits r.block
  relayLedgers : ∀ r ∈ d.relayLedgers, r.Fits ∧ Plain r.stash
  validators : ∀ infos ∈ d.validatorsInfo, (infos.map (·.ledger)).Nodup ∧
    ∀ v ∈ infos, Plain v.stash ∧ ∀ w ∈ v.validators, Plain w

end Contents

theorem Tables.contains_toChecksum {β : Type} (l : List (Address × β)) (a : Address) :
    (l.map (·.1.toChecksum)).contains a.toChecksum = (l.find? (·.1 = a)).isSome := by
  induction l with
  | nil => rfl
  | cons e l ih =>
    rw [List.map_cons, List.contains_cons, ih, List.find?_cons]
    by_cases he : e.1 = a
    · simp [he]
    · simp [he, mt Address.toChecksum_inj.1 (Ne.symm he)]

def HolderRow.ofEntry (e : (Chain × Address) × Amount) : HolderRow := ofHolder e.1.1 e.1.2 e.2

/-- Balances are set by erasing the emptied holders and inserting the others. -/
theorem AggregateState.setBalances_eq (m written : AddressMap Amount) :
    setBalances m written
      = (written.entries.filter (!·.2.isZero)).foldl (fun m e => m.insert e.1 e.2)
        ((written.entries.filter (·.2.isZero)).foldl (fun m e => m.erase e.1) m) := by
  have hentries : Entries written.entries written.get? :=
    ⟨written.nodup_keys, fun k v => (AddressMap.get?_eq_some_iff written k v).symm⟩
  have hheld := hentries.filter fun _ v => !v.isZero
  have hemptied := hentries.filter fun _ v => v.isZero
  apply AddressMap.ext_get?
  intro j
  rw [setBalances, AddressMap.get?_writeAll get?_setBalance,
    AddressMap.get?_foldl_of_nodup (g := some) (fun m k v j => AddressMap.get?_insert m k j v)
      hheld.nodup,
    AddressMap.get?_foldl_of_nodup (f := fun m k _ => m.erase k) (g := fun _ => none)
      (fun m k _ j => AddressMap.get?_erase m k j) hemptied.nodup,
    hheld.find?_eq, hemptied.find?_eq]
  cases written.get? j with
  | none => rfl
  | some v => by_cases hv : v.isZero <;> simp [hv, Option.filter]

namespace Tables

/-- Reports in the order of their numbers. -/
def numbered (first : Nat) (rewards : List RewardRow) : List ReportRow :=
  (rewards.zipIdx first).map fun e => ReportRow.write e.2 e.1

def balanceAt (holders : Chain → AddressMap Amount) (key : Chain × Address) : Option Amount :=
  (holders key.1).get? key.2

theorem balanceAt_insert (holders : Chain → AddressMap Amount) (chain : Chain) (a : Address)
    (v : Amount) : Function.update (balanceAt holders) (chain, a) (some v)
      = balanceAt (Function.update holders chain ((holders chain).insert a v)) := by
  funext ⟨c, b⟩
  by_cases hc : c = chain
  · subst hc
    by_cases hb : b = a <;> simp [balanceAt, hb]
  · simp [balanceAt, hc]

theorem tabulates_upsertHolders (chain : Chain) (held : List (Address × Amount))
    {rows : List HolderRow} {holders : Chain → AddressMap Amount}
    (h : Tabulates HolderRow.ofEntry rows (balanceAt holders)) :
    Tabulates HolderRow.ofEntry
      (held.foldl (fun rows e =>
        let row := HolderRow.ofHolder chain e.1 e.2
        upsert (fun r => r.chain = row.chain && r.address = row.address) row rows) rows)
      (balanceAt (Function.update holders chain
        (held.foldl (fun m e => m.insert e.1 e.2) (holders chain)))) := by
  induction held generalizing rows holders with
  | nil =>
    rw [List.foldl_nil, List.foldl_nil, Function.update_eq_self]
    exact h
  | cons e held ih =>
    have hkey : ∀ key v, balanceAt holders key = some v →
        (decide ((HolderRow.ofEntry (key, v)).chain = chain.name)
          && decide ((HolderRow.ofEntry (key, v)).address = e.1.toChecksum))
          = decide (key = (chain, e.1)) := by
      intro key v _
      simp [HolderRow.ofEntry, HolderRow.ofHolder, Chain.name_inj, Address.toChecksum_inj,
        Prod.ext_iff]
    have hfirst := h.upsert (fun r => r.chain = chain.name && r.address = e.1.toChecksum) hkey e.2
    rw [balanceAt_insert] at hfirst
    have hrest := ih hfirst
    rw [Function.update_idem, Function.update_self] at hrest
    exact hrest

/-- Tables whose rows are written from contents. -/
structure Holds (t : Tables) (k : Contents) : Prop where
  aggregates : Tabulates (fun e => AggregateRow.write e.1 e.2) t.aggregates k.states
  wordsFit : ∀ chain s, k.states chain = some s → s.WordsFit
  holders : Tabulates HolderRow.ofEntry t.holders (balanceAt k.holders)
  ledgers : KeptByLedger LedgerRecord.ledger LedgerRow.ofRecord (fun _ => True) t.ledgers k.ledgers
  relayLedgers : KeptByLedger RelayLedgerRecord.ledger RelayLedgerRow.write
    RelayLedgerRecord.Fits t.relayLedgers k.relayLedgers
  reports : t.reports = numbered 1 k.rewards
  nextReport : t.nextReport = k.rewards.length + 1
  blocksFit : ∀ r ∈ k.rewards, Word.Fits r.block
  validators : t.validators = k.validators.map ValidatorsRow.ofInfo

theorem holds_empty : empty.Holds .empty where
  aggregates := .nil _
  wordsFit _ _ h := by cases h
  holders := .nil _
  ledgers := .nil
  relayLedgers := .nil
  reports := rfl
  nextReport := rfl
  blocksFit _ h := by cases h
  validators := rfl

theorem numbered_append (first : Nat) (rewards more : List RewardRow) :
    numbered first (rewards ++ more)
      = numbered first rewards ++ numbered (first + rewards.length) more := by
  rw [numbered, List.zipIdx_append, List.map_append]
  rfl

theorem foldl_append_report (rewards : List RewardRow) (t : Tables) :
    (rewards.map (ReportRow.write 0)).foldl (fun t r =>
        { t with
          reports := t.reports ++ [{ r with number := t.nextReport }]
          nextReport := t.nextReport + 1 }) t
      = { t with
          reports := t.reports ++ numbered t.nextReport rewards
          nextReport := t.nextReport + rewards.length } := by
  induction rewards generalizing t with
  | nil => simp [numbered]
  | cons r rewards ih =>
    rw [List.map_cons, List.foldl_cons, ih, List.length_cons]
    simp [numbered, ReportRow.write, Nat.add_assoc, Nat.add_comm 1]

theorem mapM_convert {α β : Type} {f : α → Converted β} {g : α → β} {l : List α}
    (h : ∀ a ∈ l, f a = .ok (g a)) (t : Tables) :
    (l.mapM fun a => convert (f a) : Statement (List β)) t = (.ok (l.map g), t) := by
  induction l with
  | nil => rfl
  | cons a l ih =>
    rw [List.mapM_cons, bind_eq, convert, h a (by simp)]
    dsimp only
    rw [bind_eq, ih fun b hb => h b (by simp [hb])]
    rfl

theorem convert_ok_bind {α β : Type} (v : α) (f : α → Statement β) :
    (convert (.ok v) >>= f) = f v := by
  funext t
  rw [bind_eq, convert]

theorem succeeds_convert_bind {α β : Type} {c : Converted α} {v : α} {f : α → Statement β}
    {t : Tables} {Q : Tables → Prop} (hc : c = .ok v) (h : (f v).Succeeds t Q) :
    (convert c >>= f).Succeeds t Q := by
  rw [hc, convert_ok_bind]
  exact h

theorem checkBinds_of_fit {columns rows : Nat} (h : BindsFit columns rows) :
    checkBinds columns rows = .ok () := if_pos h

theorem insertReports_eq {rewards : List RewardRow} (h : ∀ r ∈ rewards, Word.Fits r.block)
    (hbinds : BindsFit 4 rewards.length) (t : Tables) :
    insertReports rewards t = (.ok (), { t with
      reports := t.reports ++ numbered t.nextReport rewards
      nextReport := t.nextReport + rewards.length }) := by
  unfold insertReports
  rw [bind_eq, mapM_convert fun r hr => ReportRow.ofReward_of_fits (h r hr)]
  dsimp only
  rw [checkBinds_of_fit hbinds, convert_ok_bind]
  exact congrArg (Prod.mk _) (foldl_append_report rewards t)

theorem insertReports_error {rewards : List RewardRow} (h : ∀ r ∈ rewards, Word.Fits r.block)
    (hbinds : ¬ BindsFit 4 rewards.length) (t : Tables) :
    insertReports rewards t = (.error (.query "too many values for one statement"), t) := by
  unfold insertReports
  rw [bind_eq, mapM_convert fun r hr => ReportRow.ofReward_of_fits (h r hr)]
  dsimp only
  rw [bind_eq, convert, checkBinds, if_neg hbinds]

theorem checkText_of_plain {s : String} (h : Plain s) : checkText s = .ok () := by
  have hnot : ¬ s.toList.contains '\x00' = true := mt List.contains_iff_mem.1 h
  rw [checkText, if_neg hnot]

/-- The set is checked before any of it is written. -/
theorem replaceValidators_eq {infos : List ValidatorsInfo}
    (hplain : ∀ v ∈ infos, Plain v.stash ∧ ∀ w ∈ v.validators, Plain w) (t : Tables) :
    replaceValidators infos t
      = if BindsFit 4 infos.length then
          if (infos.map (·.ledger)).Nodup then
            (.ok (), { t with validators := infos.map ValidatorsRow.ofInfo })
          else (.error (.query "ledger is repeated"), { t with validators := [] })
        else
          (.error (.query "too many values for one statement"), { t with validators := [] }) := by
  have hchecked : ((infos.map ValidatorsRow.ofInfo).forM fun r => do
      convert (checkText r.stash)
      r.validators.forM fun v => convert (checkText v) : Statement PUnit).Succeeds
        { t with validators := [] } (· = { t with validators := [] }) := by
    refine succeeds_forM (fun r hr u hu => ?_) rfl
    obtain ⟨v, hv, rfl⟩ := List.mem_map.1 hr
    obtain ⟨hstash, hvalidators⟩ := hplain v hv
    refine succeeds_convert_bind (checkText_of_plain hstash) ?_
    refine succeeds_forM (fun w hw u hu => ?_) hu
    exact ⟨(), u, by rw [convert, checkText_of_plain (hvalidators w hw)], hu⟩
  obtain ⟨_, _, hrun, rfl⟩ := hchecked
  have hledgers := ValidatorsRow.nodup_ledgers_ofInfo infos
  unfold replaceValidators
  rw [bind_eq]
  change (convert (checkBinds 4 infos.length) >>= fun _ => _ : Statement Unit)
    { t with validators := [] } = _
  by_cases hbinds : BindsFit 4 infos.length
  · rw [checkBinds_of_fit hbinds, convert_ok_bind, bind_eq, hrun, if_pos hbinds]
    dsimp only
    by_cases hnodup : (infos.map (·.ledger)).Nodup
    · rw [if_pos (hledgers.2 hnodup), if_pos hnodup]
      rfl
    · rw [if_neg (mt hledgers.1 hnodup), if_neg hnodup]
      rfl
  · rw [bind_eq, convert, checkBinds, if_neg hbinds, if_neg hbinds]

theorem updateAggregate_eq {chain : Chain} {f : AggregateRow → Converted AggregateRow}
    {g : AggregateRow → AggregateRow} {t : Tables}
    (h : ∀ r ∈ t.aggregates, (if r.chain = chain.name then f r else .ok r) = .ok (g r)) :
    updateAggregate chain f t = (.ok (), { t with aggregates := t.aggregates.map g }) := by
  unfold updateAggregate
  rw [bind_eq]
  change (t.aggregates.mapM _ >>= fun rows => set { t with aggregates := rows } : Statement _) t = _
  rw [bind_eq, mapM_convert h]
  rfl

theorem overwriteAggregate_eq (chain : Chain) (c : AggregateColumns) (t : Tables) :
    overwriteAggregate chain c t = updateAggregate chain (fun r => .ok (c.apply r)) t := by
  unfold overwriteAggregate
  split_ifs with hempty
  · rw [updateAggregate_eq (g := id), List.map_id]
    · rfl
    · intro r _
      rw [AggregateColumns.apply_of_isEmpty hempty, ite_self]
      rfl
  · rfl

namespace Holds

variable {t : Tables} {k : Contents} (h : t.Holds k)
include h

theorem of_cursors (rows : List CursorRow) : { t with cursors := rows }.Holds k := { h with }

theorem find?_aggregates (chain : Chain) : t.aggregates.find? (·.chain = chain.name)
    = (k.states chain).map (AggregateRow.write chain) :=
  h.aggregates.find?_eq fun _ _ _ => decide_eq_decide.2 Chain.name_inj

theorem wordsFit_update {chain : Chain} {s : AggregateState} (hs : s.WordsFit) (j : Chain)
    (r : AggregateState) (hr : Function.update k.states chain (some s) j = some r) :
    r.WordsFit := by
  by_cases hj : j = chain
  · subst hj
    rw [Function.update_self] at hr
    cases hr
    exact hs
  · rw [Function.update_of_ne hj] at hr
    exact h.wordsFit j r hr

theorem ensureAggregate (chain : Chain) : (ensureAggregate chain).Succeeds t fun t =>
    t.Holds { k with states := Function.update k.states chain (some (k.before chain)) } := by
  refine succeeds_modify ?_
  have hfind := h.find?_aggregates chain
  rw [Contents.before]
  cases hstate : k.states chain with
  | some s =>
    rw [hstate] at hfind
    have hany : t.aggregates.any (·.chain = chain.name) = true :=
      List.any_eq_true.2 ⟨_, List.mem_of_find?_eq_some hfind, by simpa using List.find?_some hfind⟩
    rw [if_pos hany, Option.getD_some, ← hstate, Function.update_eq_self]
    exact h
  | none =>
    rw [hstate, Option.map_none, List.find?_eq_none] at hfind
    have hany : ¬ t.aggregates.any (·.chain = chain.name) = true := by
      rw [List.any_eq_true]
      rintro ⟨r, hr, hname⟩
      exact hfind r hr hname
    rw [if_neg hany, Option.getD_none, ← AggregateRow.write_empty]
    exact { h with
      aggregates := h.aggregates.append hstate _
      wordsFit := h.wordsFit_update (AggregateState.wordsFit_empty chain) }

theorem updateAggregate {chain : Chain} {s s' : AggregateState}
    {f : AggregateRow → Converted AggregateRow} (hs : k.states chain = some s)
    (hf : f (AggregateRow.write chain s) = .ok (AggregateRow.write chain s'))
    (hfits : s'.WordsFit) : (updateAggregate chain f).Succeeds t
      fun t => t.Holds { k with states := Function.update k.states chain (some s') } := by
  obtain ⟨l, hl, hrows⟩ := h.aggregates
  have hwritten : ∀ r ∈ t.aggregates, (if r.chain = chain.name then f r else .ok r)
      = .ok (if r.chain = chain.name then AggregateRow.write chain s' else r) := by
    rw [hrows]
    intro r hr
    obtain ⟨⟨j, u⟩, he, rfl⟩ := List.mem_map.1 hr
    split_ifs with hname
    · cases Chain.name_inj.1 hname
      rw [(hl.mem_iff _ u).1 he, Option.some.injEq] at hs
      rw [hs, hf]
    · rfl
  refine ⟨(), _, updateAggregate_eq hwritten, ?_⟩
  have hmodified := hl.modify chain fun _ => s'
  rw [hs, Option.map_some] at hmodified
  refine { h with
    aggregates := ⟨_, hmodified, ?_⟩
    wordsFit := h.wordsFit_update hfits }
  change t.aggregates.map _ = _
  rw [hrows, List.map_map, List.map_map]
  refine List.map_congr_left fun e _ => ?_
  by_cases hj : e.1 = chain
  · simp [hj, AggregateRow.write]
  · have hname : ¬ (AggregateRow.write e.1 e.2).chain = chain.name := mt Chain.name_inj.1 hj
    simp [hj, hname]

theorem overwriteAggregate {d : AggregateDelta} {s : AggregateState}
    (hs : k.states d.chain = some s) (hd : d.WordsFit) :
    (overwriteAggregate d.chain (AggregateColumns.write d)).Succeeds t fun t =>
      t.Holds { k with states := Function.update k.states d.chain (some (s.replace d)) } := by
  rw [Action.Succeeds, overwriteAggregate_eq]
  exact h.updateAggregate hs (congrArg Except.ok (AggregateColumns.apply_write d d.chain s))
    ((h.wordsFit _ _ hs).replace hd)

theorem incrementAggregate {chain : Chain} {s : AggregateState} {c : CounterIncrements}
    (hs : k.states chain = some s) (hc : s.Counts c) :
    (incrementAggregate chain c).Succeeds t fun t =>
      t.Holds { k with states := Function.update k.states chain (some (s.increment c)) } := by
  unfold Tables.incrementAggregate
  split_ifs with hempty
  · cases of_decide_eq_true hempty
    refine succeeds_pure ?_
    rw [AggregateState.increment_empty, ← hs, Function.update_eq_self]
    exact h
  · have hdeposits : Word.Fits c.depositedCount := by
      have hsum := hc.depositedCount
      unfold Word.Fits
      omega
    have hredeems : Word.Fits c.redeemedCount := by
      have hsum := hc.redeemedCount
      unfold Word.Fits
      omega
    refine succeeds_convert_bind (ofWord_of_fits hdeposits) ?_
    refine succeeds_convert_bind (ofWord_of_fits hredeems) ?_
    refine h.updateAggregate hs ?_ ((h.wordsFit _ _ hs).increment hc)
    simp only [AggregateRow.write, addCount_eq hc.depositedCount, addCount_eq hc.redeemedCount,
      Numeric.combine_add hc.deposited, Numeric.combine_add hc.redeemed,
      Numeric.combine_add hc.rewardsAggregated, Numeric.combine_add hc.lossesAggregated,
      Numeric.combine_add hc.bufferedDeposits, Numeric.combine_sub]
    rfl

theorem eraseHolders (chain : Chain) {erased : List (Address × Amount)}
    (hnodup : (erased.map (·.1)).Nodup) :
    Holds { t with holders := t.holders.filter fun r => !(r.chain = chain.name &&
        (erased.map (·.1.toChecksum)).contains r.address) } { k with
      holders := Function.update k.holders chain
        (erased.foldl (fun m e => m.erase e.1) (k.holders chain)) } := by
  refine { h with holders := ?_ }
  convert h.holders.filter (p := fun key _ => !(key.1 = chain &&
    (erased.map (·.1.toChecksum)).contains key.2.toChecksum)) ?_ using 1
  · have hall : ∀ o : Option Amount, o.filter (fun _ => true) = o := fun o => by cases o <;> rfl
    funext ⟨c, a⟩
    by_cases hc : c = chain
    · subst hc
      simp only [balanceAt, Function.update_self, decide_true, Bool.true_and, contains_toChecksum]
      rw [AddressMap.get?_foldl_of_nodup (f := fun m k _ => m.erase k) (g := fun _ => none)
        (fun m k _ j => AddressMap.get?_erase m k j) hnodup]
      cases List.find? _ _ <;> simp [hall]
    · simp [balanceAt, hc, hall]
  · intro key v
    simp [HolderRow.ofEntry, HolderRow.ofHolder, Chain.name_inj]

/-- Balances are written row by row, after the rows of the emptied holders are removed. -/
theorem writeHolders (chain : Chain) {balances : AddressMap Amount}
    (hbinds : BindsFit 3 (held balances).length) :
    (writeHolders chain balances).Succeeds t fun t => t.Holds { k with
      holders := Function.update k.holders chain
        (AggregateState.setBalances (k.holders chain) balances) } := by
  have hnodup : ((balances.entries.filter (·.2.isZero)).map (·.1)).Nodup :=
    balances.nodup_keys.sublist (List.filter_sublist.map _)
  refine (succeeds_modify (Q := (Holds · _)) (h.eraseHolders chain hnodup)).bind fun _ t h => ?_
  refine succeeds_convert_bind (checkBinds_of_fit hbinds) (succeeds_modify { h with holders := ?_ })
  have hwritten := tabulates_upsertHolders chain (held balances) h.holders
  dsimp only at hwritten
  rw [Function.update_idem, Function.update_self] at hwritten
  rw [AggregateState.setBalances_eq]
  exact hwritten

theorem insertReports {rewards : List RewardRow} (hfits : ∀ r ∈ rewards, Word.Fits r.block)
    (hbinds : BindsFit 4 rewards.length) : (insertReports rewards).Succeeds t
      fun t => t.Holds { k with rewards := k.rewards ++ rewards } := by
  refine ⟨(), _, insertReports_eq hfits hbinds t, ?_⟩
  refine { h with reports := ?_, nextReport := ?_, blocksFit := fun r hr => ?_ }
  · change t.reports ++ _ = _
    rw [h.reports, h.nextReport, numbered_append, Nat.add_comm]
  · change t.nextReport + _ = _
    rw [h.nextReport, List.length_append]
    omega
  · rcases List.mem_append.1 hr with hold | hnew
    · exact h.blocksFit r hold
    · exact hfits r hnew

theorem upsertLedger (record : LedgerRecord) : (upsertLedger record).Succeeds t
    fun t => t.Holds { k with ledgers := k.ledgers.insert record.ledger record } :=
  succeeds_modify { h with
    ledgers := h.ledgers.upsert trivial fun _ => decide_eq_decide.2 Address.toChecksum_inj }

theorem upsertLedgers (records : List LedgerRecord) : (records.forM Tables.upsertLedger).Succeeds t
    fun t => t.Holds
      { k with ledgers := records.foldl (fun m r => m.insert r.ledger r) k.ledgers } := by
  induction records generalizing t k with
  | nil => exact succeeds_pure h
  | cons r records ih => exact (h.upsertLedger r).bind fun _ t ht => ih ht

theorem upsertRelayLedger {record : RelayLedgerRecord} (hfits : record.Fits)
    (hplain : Plain record.stash) : (upsertRelayLedger record).Succeeds t
    fun t => t.Holds { k with relayLedgers := k.relayLedgers.insert record.ledger record } := by
  refine succeeds_convert_bind (RelayLedgerRow.ofRecord_of_fits hfits) ?_
  refine succeeds_convert_bind (checkText_of_plain hplain) ?_
  exact succeeds_modify { h with
    relayLedgers := h.relayLedgers.upsert hfits fun _ => decide_eq_decide.2 Address.toChecksum_inj }

theorem upsertRelayLedgers {records : List RelayLedgerRecord}
    (hrecords : ∀ r ∈ records, r.Fits ∧ Plain r.stash) :
    (records.forM Tables.upsertRelayLedger).Succeeds t fun t => t.Holds
      { k with relayLedgers := records.foldl (fun m r => m.insert r.ledger r) k.relayLedgers } := by
  induction records generalizing t k with
  | nil => exact succeeds_pure h
  | cons r records ih =>
    obtain ⟨hfits, hplain⟩ := hrecords r (by simp)
    refine (h.upsertRelayLedger hfits hplain).bind fun _ t ht => ?_
    exact ih ht fun q hq => hrecords q (by simp [hq])

theorem replaceValidators {infos : List ValidatorsInfo} (hbinds : BindsFit 4 infos.length)
    (hdistinct : (infos.map (·.ledger)).Nodup)
    (hplain : ∀ v ∈ infos, Plain v.stash ∧ ∀ w ∈ v.validators, Plain w) :
    (replaceValidators infos).Succeeds t
      fun t => t.Holds { k with validators := infos } := by
  refine ⟨(), { t with validators := infos.map ValidatorsRow.ofInfo }, ?_,
    { h with validators := rfl }⟩
  rw [replaceValidators_eq hplain, if_pos hbinds, if_pos hdistinct]

/-- A change that the columns can hold is written as a whole. -/
theorem writeDelta {d : AggregateDelta} (hd : k.Accepts d) :
    (writeDelta d (AggregateColumns.write d)).Succeeds t (·.Holds (k.write d)) := by
  have hstate : ∀ s : AggregateState, Function.update k.states d.chain (some s) d.chain = some s :=
    fun s => Function.update_self ..
  refine (h.ensureAggregate d.chain).bind fun _ t h => ?_
  refine (h.overwriteAggregate (hstate _) hd.words).bind fun _ t h => ?_
  rw [Function.update_idem] at h
  refine (h.incrementAggregate (hstate _) (hd.counts.replace d)).bind fun _ t h => ?_
  rw [Function.update_idem] at h
  refine (h.writeHolders d.chain hd.binds.holders).bind fun _ t h => ?_
  refine (h.insertReports hd.blocks hd.binds.reports).bind fun _ t h => ?_
  refine (h.upsertLedgers d.ledgers).bind fun _ t h => ?_
  refine (h.upsertRelayLedgers hd.relayLedgers).bind fun _ t h => ?_
  have hvalidators := hd.validators
  unfold Contents.write
  cases hinfos : d.validatorsInfo with
  | none => exact succeeds_pure h
  | some infos =>
    obtain ⟨hdistinct, hplain⟩ := hvalidators infos hinfos
    exact h.replaceValidators (hd.binds.validators infos hinfos) hdistinct hplain

end Holds
end Tables
end StakingIndexer
