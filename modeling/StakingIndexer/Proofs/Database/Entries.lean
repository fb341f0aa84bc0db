import Mathlib
import StakingIndexer.Database.Tables
import StakingIndexer.Proofs.AddressMap

/-!
# Entries of tables

The rows of a table are written from entries, one for each key, in the order in which they were
written. What a table holds does not depend on this order: it is a lookup by key. Writing a row
again, removing rows and changing rows are the same operations on entries and on lookups.
-/

namespace StakingIndexer

/-- Entries with distinct keys, and the lookup by key that they amount to. -/
structure Entries {κ β : Type} (l : List (κ × β)) (look : κ → Option β) : Prop where
  nodup : (l.map (·.1)).Nodup
  mem_iff : ∀ k v, (k, v) ∈ l ↔ look k = some v

namespace Entries

variable {κ β γ ρ : Type} {l : List (κ × β)} {look : κ → Option β}

theorem nil : Entries ([] : List (κ × β)) fun _ => none where
  nodup := .nil
  mem_iff k v := by simp

theorem filter (h : Entries l look) (p : κ → β → Bool) :
    Entries (l.filter fun e => p e.1 e.2) fun k => (look k).filter (p k) where
  nodup := h.nodup.sublist (List.filter_sublist.map _)
  mem_iff k v := by
    rw [List.mem_filter, h.mem_iff, Option.filter_eq_some_iff]

theorem map (h : Entries l look) (f : κ → β → γ) :
    Entries (l.map fun e => (e.1, f e.1 e.2)) fun k => (look k).map (f k) where
  nodup := by
    rw [List.map_map]
    exact h.nodup
  mem_iff k v := by
    rw [List.mem_map, Option.map_eq_some_iff]
    constructor
    · rintro ⟨⟨j, w⟩, hmem, heq⟩
      cases heq
      exact ⟨w, (h.mem_iff j w).1 hmem, rfl⟩
    · rintro ⟨w, hw, rfl⟩
      exact ⟨(k, w), (h.mem_iff k w).2 hw, rfl⟩

variable [DecidableEq κ]

theorem find?_eq (h : Entries l look) (k : κ) : l.find? (·.1 = k) = (look k).map (k, ·) := by
  cases hlook : look k with
  | none =>
    rw [Option.map_none, List.find?_eq_none]
    rintro ⟨j, w⟩ hmem hj
    cases of_decide_eq_true hj
    rw [(h.mem_iff _ w).1 hmem] at hlook
    cases hlook
  | some v =>
    obtain ⟨e, he⟩ : ∃ e, l.find? (·.1 = k) = some e :=
      Option.isSome_iff_exists.1 (List.find?_isSome.2 ⟨(k, v), (h.mem_iff k v).2 hlook, by simp⟩)
    have hkey : e.1 = k := by simpa using List.find?_some he
    have hmem := (h.mem_iff e.1 e.2).1 (List.mem_of_find?_eq_some he)
    rw [hkey, hlook] at hmem
    rw [he, Option.map_some, ← hkey, Option.some.inj hmem]

theorem append (h : Entries l look) {k : κ} (hk : look k = none) (v : β) :
    Entries (l ++ [(k, v)]) (Function.update look k (some v)) where
  nodup := by
    rw [List.map_append, List.nodup_append]
    refine ⟨h.nodup, by simp, ?_⟩
    rintro j hj i hi rfl
    obtain ⟨⟨j, w⟩, hmem, rfl⟩ := List.mem_map.1 hj
    cases List.mem_singleton.1 hi
    rw [(h.mem_iff _ w).1 hmem] at hk
    cases hk
  mem_iff j w := by
    rw [List.mem_append, h.mem_iff, List.mem_singleton, Prod.mk.injEq]
    by_cases hj : j = k
    · subst hj
      rw [Function.update_self, hk, Option.some.injEq]
      constructor
      · rintro (hw | ⟨-, rfl⟩)
        · cases hw
        · rfl
      · rintro rfl
        exact .inr ⟨rfl, rfl⟩
    · rw [Function.update_of_ne hj]
      constructor
      · rintro (hw | ⟨hjk, -⟩)
        · exact hw
        · exact absurd hjk hj
      · exact .inl

theorem write (h : Entries l look) (k : κ) (v : β) :
    Entries (l.filter (fun e => e.1 ≠ k) ++ [(k, v)]) (Function.update look k (some v)) := by
  have hcleared := h.filter fun j _ => j ≠ k
  have hnone : (look k).filter (fun _ => decide (k ≠ k)) = none := by simp
  have hwritten := hcleared.append hnone v
  convert hwritten using 1
  funext j
  by_cases hj : j = k
  · subst hj
    rw [Function.update_self, Function.update_self]
  · rw [Function.update_of_ne hj, Function.update_of_ne hj]
    cases look j <;> simp [Option.filter, hj]

theorem modify (h : Entries l look) (k : κ) (f : β → β) :
    Entries (l.map fun e => (e.1, if e.1 = k then f e.2 else e.2))
      (Function.update look k ((look k).map f)) := by
  convert h.map fun j v => if j = k then f v else v using 1
  funext j
  by_cases hj : j = k
  · subst hj
    simp
  · rw [Function.update_of_ne hj]
    cases look j <;> simp [hj]

theorem ofList_eq {l : List (Address × β)} {m : AddressMap β} (h : Entries l m.get?) :
    AddressMap.ofList l = m := by
  apply AddressMap.ext_get?
  intro k
  rw [AddressMap.ofList, AddressMap.get?_foldl_of_nodup (g := some)
    (fun m k v j => AddressMap.get?_insert m k j v) h.nodup, h.find?_eq]
  cases m.get? k <;> rfl

end Entries

/-- Rows that are written from the entries of a lookup. -/
def Tabulates {κ β ρ : Type} (row : κ × β → ρ) (rows : List ρ) (look : κ → Option β) : Prop :=
  ∃ l, Entries l look ∧ rows = l.map row

namespace Tabulates

variable {κ β ρ : Type} {row : κ × β → ρ} {rows : List ρ} {look : κ → Option β}

theorem nil (row : κ × β → ρ) : Tabulates row [] fun _ => none := ⟨[], .nil, rfl⟩

theorem filter (h : Tabulates row rows look) {keep : ρ → Bool} {p : κ → β → Bool}
    (hkeep : ∀ k v, keep (row (k, v)) = p k v) :
    Tabulates row (rows.filter keep) fun k => (look k).filter (p k) := by
  obtain ⟨l, hl, rfl⟩ := h
  refine ⟨_, hl.filter p, ?_⟩
  rw [List.filter_map]
  congr 2
  funext e
  exact hkeep e.1 e.2

theorem mem_iff (h : Tabulates row rows look) {r : ρ} :
    r ∈ rows ↔ ∃ k v, look k = some v ∧ r = row (k, v) := by
  obtain ⟨l, hl, rfl⟩ := h
  rw [List.mem_map]
  constructor
  · rintro ⟨⟨k, v⟩, he, rfl⟩
    exact ⟨k, v, (hl.mem_iff k v).1 he, rfl⟩
  · rintro ⟨k, v, hv, rfl⟩
    exact ⟨(k, v), (hl.mem_iff k v).2 hv, rfl⟩

variable [DecidableEq κ]

theorem find?_eq (h : Tabulates row rows look) {hasKey : ρ → Bool} {k : κ}
    (hkey : ∀ j v, look j = some v → hasKey (row (j, v)) = decide (j = k)) :
    rows.find? hasKey = (look k).map fun v => row (k, v) := by
  obtain ⟨l, hl, rfl⟩ := h
  have hsame : l.find? (hasKey ∘ row) = l.find? (·.1 = k) :=
    List.find?_congr fun e he => hkey e.1 e.2 ((hl.mem_iff e.1 e.2).1 he)
  rw [List.find?_map, hsame, hl.find?_eq, Option.map_map]
  rfl

theorem append (h : Tabulates row rows look) {k : κ} (hk : look k = none) (v : β) :
    Tabulates row (rows ++ [row (k, v)]) (Function.update look k (some v)) := by
  obtain ⟨l, hl, rfl⟩ := h
  refine ⟨_, hl.append hk v, ?_⟩
  rw [List.map_append, List.map_singleton]

/-- A row is written in place of the row of its key. -/
theorem upsert (h : Tabulates row rows look) (sameKey : ρ → Bool) {k : κ}
    (hkey : ∀ j v, look j = some v → sameKey (row (j, v)) = decide (j = k)) (v : β) :
    Tabulates row (Tables.upsert sameKey (row (k, v)) rows) (Function.update look k (some v)) := by
  obtain ⟨l, hl, rfl⟩ := h
  refine ⟨_, hl.write k v, ?_⟩
  rw [Tables.upsert, List.map_append, List.map_singleton, List.filter_map]
  congr 2
  refine List.filter_congr fun e he => ?_
  simp [hkey e.1 e.2 ((hl.mem_iff e.1 e.2).1 he)]

end Tabulates

/-- Rows of records that are kept by the ledger which they name. -/
structure KeptByLedger {β ρ : Type} (ledger : β → Address) (row : β → ρ) (P : β → Prop)
    (rows : List ρ) (m : AddressMap β) : Prop where
  tabulates : Tabulates (fun e => row e.2) rows m.get?
  keyed : ∀ a r, m.get? a = some r → ledger r = a ∧ P r

namespace KeptByLedger

variable {β ρ : Type} {ledger : β → Address} {row : β → ρ} {P : β → Prop} {rows : List ρ}
  {m : AddressMap β}

theorem nil : KeptByLedger ledger row P [] .empty where
  tabulates := .nil _
  keyed _ _ h := by cases h

theorem upsert (h : KeptByLedger ledger row P rows m) {record : β} (hrecord : P record)
    {sameKey : ρ → Bool} (hkey : ∀ r, sameKey (row r) = decide (ledger r = ledger record)) :
    KeptByLedger ledger row P (Tables.upsert sameKey (row record) rows)
      (m.insert (ledger record) record) where
  tabulates := by
    have hlook : (m.insert (ledger record) record).get?
        = Function.update m.get? (ledger record) (some record) := by
      funext a
      rw [AddressMap.get?_insert, Function.update_apply]
    rw [hlook]
    refine h.tabulates.upsert _ (fun a r hr => ?_) record
    rw [← (h.keyed a r hr).1]
    exact hkey r
  keyed a r hr := by
    rw [AddressMap.get?_insert] at hr
    split_ifs at hr with ha
    · cases hr
      exact ⟨ha.symm, hrecord⟩
    · exact h.keyed a r hr

end KeptByLedger
end StakingIndexer
