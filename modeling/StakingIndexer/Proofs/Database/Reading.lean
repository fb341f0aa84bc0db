import Mathlib
import StakingIndexer.Proofs.Database.Contents

/-!
# Reading contents back

Tables that are written from contents are read without an error, and what is read are the
contents: the state of a chain with the balances and records that belong to it, and the
validators.
-/

namespace StakingIndexer

open StakingIndexer.Action Column

namespace Contents

def complete (k : Contents) (s : AggregateState) : Chain → AggregateState
  | .parachain => { s.core with
      chain := .parachain
      holderBalances := k.holders .parachain
      ledgers := k.ledgers }
  | .relayChain => { s.core with
      chain := .relayChain
      holderBalances := k.holders .relayChain
      relayLedgers := k.relayLedgers }

/-- The state of a chain that is put together from all tables. -/
def state (k : Contents) (chain : Chain) : Option AggregateState :=
  (k.states chain).map fun s => k.complete s chain

end Contents

namespace Tables

theorem readable_eq {ρ : Type} {numerics : ρ → List Numeric} {rows : List ρ}
    (h : ∀ r ∈ rows, (numerics r).any Numeric.isSpecial = false) :
    readable numerics rows = .ok rows := by
  have hnone : ¬ (rows.any fun r => (numerics r).any Numeric.isSpecial) = true := by
    rw [List.any_eq_true]
    rintro ⟨r, hr, hspecial⟩
    rw [h r hr] at hspecial
    cases hspecial
  rw [readable, if_neg hnone]

theorem read_eq {α β ρ : Type} (numerics : ρ → List Numeric) (read : ρ → Converted β)
    (row : α → ρ) (value : α → β) {l : List α}
    (hnumerics : ∀ a ∈ l, (numerics (row a)).any Numeric.isSpecial = false)
    (hread : ∀ a ∈ l, read (row a) = .ok (value a)) (t : Tables) :
    (do let rows ← convert (readable numerics (l.map row)); rows.mapM fun r => convert (read r) :
      Statement (List β)) t = (.ok (l.map value), t) := by
  have hreadable : readable numerics (l.map row) = .ok (l.map row) := by
    refine readable_eq fun r hr => ?_
    obtain ⟨a, ha, rfl⟩ := List.mem_map.1 hr
    exact hnumerics a ha
  rw [bind_eq, convert, hreadable]
  dsimp only
  rw [List.mapM_map]
  exact mapM_convert hread t

theorem loadAggregate_of_find? {chain : Chain} {t : Tables} {row : Option AggregateRow}
    (hfind : t.aggregates.find? (·.chain = chain.name) = row)
    (hnumerics : ∀ r ∈ row, r.numerics.any Numeric.isSpecial = false) :
    loadAggregate chain t = (row.mapM AggregateRow.toState, t) := by
  have hreadable : readable AggregateRow.numerics row.toList = .ok row.toList :=
    readable_eq fun r hr => hnumerics r (Option.mem_toList.1 hr)
  unfold loadAggregate
  rw [bind_eq]
  change (convert (readable _ (t.aggregates.find? _).toList) >>= _ : Statement _) t = _
  rw [hfind, bind_eq, convert, hreadable]
  cases row with
  | none => rfl
  | some r =>
    dsimp only
    rw [Option.toList_some, List.head?_cons, Option.mapM_some, Option.mapM_some, map_eq, convert]
    cases r.toState <;> rfl

def completeState (chain : Chain) (state : AggregateState) : Statement AggregateState := do
  let state := { state with holderBalances := ← loadHolders chain }
  match chain with
  | .parachain =>
    let records ← loadLedgers
    return { state with ledgers := .ofList (records.map fun r => (r.ledger, r)) }
  | .relayChain =>
    let records ← loadRelayLedgers
    return { state with relayLedgers := .ofList (records.map fun r => (r.ledger, r)) }

/-- The state of a chain is its row, completed. -/
theorem loadState_eq (chain : Chain) (t : Tables) : loadState chain t
    = match loadAggregate chain t with
      | (.ok (some state), u) => (some <$> completeState chain state) u
      | (.ok none, u) => (.ok none, u)
      | (.error e, u) => (.error e, u) := by
  unfold loadState
  rw [bind_eq]
  rcases loadAggregate chain t with ⟨e | _ | state, u⟩
  · rfl
  · rfl
  · cases chain <;> simp [completeState, map_bind]

end Tables

theorem KeptByLedger.read {β ρ : Type} {ledger : β → Address} {row : β → ρ} {P : β → Prop}
    {rows : List ρ} {m : AddressMap β} (h : KeptByLedger ledger row P rows m)
    (numerics : ρ → List Numeric) {read : ρ → Converted β}
    (hnumerics : ∀ r, (numerics (row r)).any Numeric.isSpecial = false)
    (hread : ∀ r, P r → read (row r) = .ok r) (t : Tables) :
    ∃ records, (do
        let rows ← Tables.convert (Tables.readable numerics rows)
        rows.mapM fun r => Tables.convert (read r) : Statement (List β)) t = (.ok records, t) ∧
      AddressMap.ofList (records.map fun r => (ledger r, r)) = m := by
  obtain ⟨l, hl, hrows⟩ := h.tabulates
  have hkeyed : ∀ e ∈ l, ledger e.2 = e.1 ∧ P e.2 :=
    fun e he => h.keyed e.1 e.2 ((hl.mem_iff e.1 e.2).1 he)
  refine ⟨l.map (·.2), ?_, ?_⟩
  · rw [hrows]
    exact Tables.read_eq numerics read (fun e : Address × β => row e.2) (·.2)
      (fun e _ => hnumerics e.2) (fun e he => hread e.2 (hkeyed e he).2) t
  · have hsame : (l.map (·.2)).map (fun r => (ledger r, r)) = l := by
      rw [List.map_map, List.map_congr_left (g := id), List.map_id]
      intro e he
      exact Prod.ext (hkeyed e he).1 rfl
    rw [hsame, hl.ofList_eq]

namespace Tables

theorem loadValidators_of_rows {infos : List ValidatorsInfo} {t : Tables}
    (h : t.validators = infos.map ValidatorsRow.ofInfo) : loadValidators t = (.ok infos, t) := by
  have hread := read_eq (fun r => [r.activeStake]) ValidatorsRow.toInfo ValidatorsRow.ofInfo id
    (l := infos) (fun _ _ => rfl) (fun v _ => ValidatorsRow.toInfo_ofInfo v) t
  rw [List.map_id, ← h] at hread
  exact hread

namespace Holds

variable {t : Tables} {k : Contents} (h : t.Holds k)
include h

theorem loadValidators : loadValidators t = (.ok k.validators, t) :=
  loadValidators_of_rows h.validators

theorem loadAggregate (chain : Chain) : loadAggregate chain t
    = (.ok ((k.states chain).map fun s => { s.core with chain }), t) := by
  have hnumerics : ∀ r ∈ (k.states chain).map (AggregateRow.write chain),
      r.numerics.any Numeric.isSpecial = false := by
    intro r hr
    obtain ⟨s, -, rfl⟩ := Option.map_eq_some_iff.1 hr
    exact AggregateRow.numerics_write chain s
  rw [loadAggregate_of_find? (h.find?_aggregates chain) hnumerics]
  cases hstate : k.states chain with
  | none => rfl
  | some s =>
    rw [Option.map_some, Option.mapM_some, AggregateRow.toState_write (h.wordsFit chain s hstate)]
    rfl

theorem loadLedgers : ∃ records, loadLedgers t = (.ok records, t) ∧
    AddressMap.ofList (records.map fun r => (r.ledger, r)) = k.ledgers :=
  h.ledgers.read LedgerRow.numerics LedgerRow.numerics_ofRecord
    (fun r _ => LedgerRow.toRecord_ofRecord r) t

theorem loadRelayLedgers : ∃ records, loadRelayLedgers t = (.ok records, t) ∧
    AddressMap.ofList (records.map fun r => (r.ledger, r)) = k.relayLedgers :=
  h.relayLedgers.read RelayLedgerRow.numerics RelayLedgerRow.numerics_write
    (fun _ hr => RelayLedgerRow.toRecord_write hr) t

theorem loadHolders (chain : Chain) : loadHolders chain t = (.ok (k.holders chain), t) := by
  have hown : Tabulates HolderRow.ofEntry (t.holders.filter (·.chain = chain.name))
      fun key => (balanceAt k.holders key).filter fun _ => key.1 = chain :=
    h.holders.filter fun key _ => decide_eq_decide.2 Chain.name_inj
  obtain ⟨l, hl, hrows⟩ := hown
  have hchain : ∀ e ∈ l, e.1.1 = chain ∧ (k.holders e.1.1).get? e.1.2 = some e.2 := by
    intro e he
    have hlook := (hl.mem_iff e.1 e.2).1 he
    rw [Option.filter_eq_some_iff] at hlook
    exact ⟨by simpa using hlook.2, hlook.1⟩
  have hentries : Entries (l.map fun e => (e.1.2, e.2)) (k.holders chain).get? := by
    constructor
    · have hsecond := hl.nodup.map_on (f := (·.2)) fun x hx y hy hxy => by
        obtain ⟨e, he, rfl⟩ := List.mem_map.1 hx
        obtain ⟨e', he', rfl⟩ := List.mem_map.1 hy
        exact Prod.ext ((hchain e he).1.trans (hchain e' he').1.symm) hxy
      rw [List.map_map] at hsecond ⊢
      exact hsecond
    · intro a v
      rw [List.mem_map]
      constructor
      · rintro ⟨e, he, heq⟩
        cases heq
        obtain ⟨hc, hlook⟩ := hchain e he
        rw [← hc]
        exact hlook
      · intro hv
        refine ⟨((chain, a), v), (hl.mem_iff _ _).2 ?_, rfl⟩
        rw [Option.filter_eq_some_iff]
        exact ⟨hv, by simp⟩
  have hread := read_eq (fun r => [r.balance]) HolderRow.toHolder HolderRow.ofEntry
    (fun e => (e.1.2, e.2)) (l := l) (fun _ _ => rfl)
    (fun e _ => HolderRow.toHolder_ofHolder e.1.1 e.1.2 e.2) t
  rw [← hrows] at hread
  unfold Tables.loadHolders
  rw [bind_eq]
  change (convert (readable _ (t.holders.filter _)) >>= fun rows =>
    rows.mapM _ >>= fun l => pure (AddressMap.ofList l) : Statement _) t = _
  rw [← bind_assoc, bind_eq, hread, ← hentries.ofList_eq]
  rfl

theorem completeState (s : AggregateState) (chain : Chain) :
    completeState chain { s.core with chain } t = (.ok (k.complete s chain), t) := by
  unfold Tables.completeState
  rw [bind_eq, h.loadHolders]
  cases chain with
  | parachain =>
    obtain ⟨records, hload, hrecords⟩ := h.loadLedgers
    dsimp only
    rw [bind_eq, hload, Contents.complete, ← hrecords]
    rfl
  | relayChain =>
    obtain ⟨records, hload, hrecords⟩ := h.loadRelayLedgers
    dsimp only
    rw [bind_eq, hload, Contents.complete, ← hrecords]
    rfl

/-- The state of a chain is read as it is put together from the contents. -/
theorem loadState (chain : Chain) : loadState chain t = (.ok (k.state chain), t) := by
  rw [loadState_eq, h.loadAggregate, Contents.state]
  cases k.states chain with
  | none => rfl
  | some s =>
    change (some <$> Tables.completeState chain { s.core with chain }) t = _
    rw [map_eq, h.completeState]
    rfl

end Holds
end Tables
end StakingIndexer
