import Mathlib
import StakingIndexer.AddressMap

/-!
# Lookups of address maps

A map is determined by its lookups, so that equations between maps are shown address by
address. Writing the entries of one map into another one is a lookup as well: the entry
written decides where there is one, and the old map elsewhere.
-/

namespace StakingIndexer

namespace Address

theorem lt_irrefl (a : Address) : ¬ a < a := Nat.lt_irrefl a.toNat

theorem lt_asymm {a b : Address} (h : a < b) : ¬ b < a := Nat.lt_asymm h

theorem eq_of_not_lt {a b : Address} (hab : ¬ a < b) (hba : ¬ b < a) : a = b :=
  Address.ext (Nat.le_antisymm (Nat.le_of_not_lt hba) (Nat.le_of_not_lt hab))

end Address

namespace AddressMap

variable {β γ : Type}

theorem ext_entries {m n : AddressMap β} (h : m.entries = n.entries) : m = n := by
  cases m; cases n; cases h; rfl

theorem nodup_keys (m : AddressMap β) : (m.entries.map (·.1)).Nodup := by
  rw [List.nodup_iff_pairwise_ne, List.pairwise_map]
  refine m.sorted.imp fun h he => ?_
  rw [he] at h
  exact Address.lt_irrefl _ h

theorem get?_eq_some_iff (m : AddressMap β) (k : Address) (v : β) :
    m.get? k = some v ↔ (k, v) ∈ m.entries := by
  unfold get?
  constructor
  · intro h
    obtain ⟨e, he, rfl⟩ := Option.map_eq_some_iff.1 h
    have hk : e.1 = k := by simpa using List.find?_some he
    exact hk ▸ List.mem_of_find?_eq_some he
  · intro h
    obtain ⟨e, he⟩ : ∃ e, m.entries.find? (fun e => e.1 = k) = some e := by
      apply Option.isSome_iff_exists.1
      exact List.find?_isSome.2 ⟨(k, v), h, by simp⟩
    have hk : e.1 = k := by simpa using List.find?_some he
    have hv : e = (k, v) :=
      List.inj_on_of_nodup_map m.nodup_keys (List.mem_of_find?_eq_some he) h hk
    rw [he, hv]
    rfl

/-- Entries are in ascending order, so two maps with the same lookups are the same list. -/
theorem ext_get? {m n : AddressMap β} (h : ∀ k, m.get? k = n.get? k) : m = n := by
  apply ext_entries
  have hmem : ∀ e, e ∈ m.entries ↔ e ∈ n.entries := fun e => by
    rw [← get?_eq_some_iff m e.1 e.2, ← get?_eq_some_iff n e.1 e.2, h]
  have hperm : m.entries.Perm n.entries :=
    (List.perm_ext_iff_of_nodup m.nodup_keys.of_map n.nodup_keys.of_map).2 hmem
  exact hperm.eq_of_pairwise (fun a b _ _ hab hba => absurd hba (Address.lt_asymm hab))
    m.sorted n.sorted

theorem find?_insertEntry (k j : Address) (v : β) (l : List (Address × β)) :
    (insertEntry k v l).find? (fun e => e.1 = j)
      = if j = k then some (k, v) else l.find? (fun e => e.1 = j) := by
  induction l with
  | nil => by_cases h : k = j <;> simp [insertEntry, h, eq_comm]
  | cons e l ih =>
    unfold insertEntry
    split_ifs with hke hek hj hj
    all_goals grind [Address.lt_irrefl, Address.eq_of_not_lt]

@[simp] theorem get?_insert (m : AddressMap β) (k j : Address) (v : β) :
    (m.insert k v).get? j = if j = k then some v else m.get? j := by
  unfold get? insert
  rw [find?_insertEntry]
  split_ifs <;> rfl

@[simp] theorem get?_erase (m : AddressMap β) (k j : Address) :
    (m.erase k).get? j = if j = k then none else m.get? j := by
  unfold get? erase
  rw [List.find?_filter]
  split_ifs with h
  · subst h
    simp
  · congr 2
    funext e
    by_cases he : e.1 = j <;> simp [he, h]

@[simp] theorem get?_empty (k : Address) : (empty : AddressMap β).get? k = none := rfl

/-- Elements that change the entry of their own address change it alone, in their order. -/
theorem get?_foldl_update {α : Type} (key : α → Address) (default : β) (f : β → α → β)
    (l : List α) (m : AddressMap β) (k : Address) :
    (l.foldl (fun m a => m.update (key a) default (f · a)) m).get? k
      = if l.filter (key · == k) = [] then m.get? k
        else some ((l.filter (key · == k)).foldl f ((m.get? k).getD default)) := by
  induction l generalizing m with
  | nil => simp
  | cons a l ih =>
    rw [List.foldl_cons, ih, update, get?_insert, List.filter_cons]
    by_cases ha : key a = k
    · subst ha
      by_cases hrest : l.filter (key · == key a) = [] <;> simp [hrest]
    · have ha' : k ≠ key a := fun h => ha h.symm
      simp [ha, ha']

theorem mem_keys {m : AddressMap β} {k : Address} : k ∈ m.keys ↔ m.get? k ≠ none := by
  rw [keys, List.mem_map]
  constructor
  · rintro ⟨⟨_, v⟩, he, rfl⟩ hnone
    rw [(get?_eq_some_iff m _ v).2 he] at hnone
    exact Option.some_ne_none v hnone
  · intro h
    obtain ⟨v, hv⟩ := Option.ne_none_iff_exists'.1 h
    exact ⟨(k, v), (get?_eq_some_iff m k v).1 hv, rfl⟩

theorem get?_eq_find?_map (m : AddressMap β) (k : Address) :
    m.get? k = (m.entries.find? fun e => e.1 = k).map (·.2) := rfl

theorem get?_foldl_of_nodup {f : AddressMap γ → Address → β → AddressMap γ}
    {g : β → Option γ}
    (hf : ∀ m k v j, (f m k v).get? j = if j = k then g v else m.get? j)
    {l : List (Address × β)} (hl : (l.map (·.1)).Nodup) (m : AddressMap γ) (j : Address) :
    (l.foldl (fun m e => f m e.1 e.2) m).get? j
      = (l.find? (fun e => e.1 = j)).elim (m.get? j) fun e => g e.2 := by
  induction l generalizing m with
  | nil => rfl
  | cons e l ih =>
    obtain ⟨he, hl⟩ := List.nodup_cons.1 hl
    rw [List.foldl_cons, ih hl, hf]
    by_cases hj : e.1 = j
    · have hnone : l.find? (fun e => e.1 = j) = none := by
        rw [List.find?_eq_none]
        intro x hx hxj
        exact he (List.mem_map.2 ⟨x, hx, (of_decide_eq_true hxj).trans hj.symm⟩)
      simp [hnone, hj]
    · simp [hj, Ne.symm hj]

def writeAll (f : AddressMap γ → Address → β → AddressMap γ) (m : AddressMap γ)
    (n : AddressMap β) : AddressMap γ :=
  n.entries.foldl (fun m e => f m e.1 e.2) m

theorem get?_writeAll {f : AddressMap γ → Address → β → AddressMap γ} {g : β → Option γ}
    (hf : ∀ m k v j, (f m k v).get? j = if j = k then g v else m.get? j)
    (m : AddressMap γ) (n : AddressMap β) (j : Address) :
    (writeAll f m n).get? j = (n.get? j).elim (m.get? j) g := by
  rw [writeAll, get?_foldl_of_nodup hf n.nodup_keys, get?_eq_find?_map n]
  cases n.entries.find? fun e => e.1 = j <;> rfl

/-- The entries of both maps, those of the second one where both have one. -/
def union (m n : AddressMap β) : AddressMap β := writeAll insert m n

@[simp] theorem get?_union (m n : AddressMap β) (j : Address) :
    (m.union n).get? j = (n.get? j <|> m.get? j) := by
  rw [union, get?_writeAll (g := some) fun m k v j => get?_insert m k j v]
  cases n.get? j <;> rfl

theorem union_empty (m : AddressMap β) : m.union .empty = m := rfl

theorem union_insert (m n : AddressMap β) (k : Address) (v : β) :
    m.union (n.insert k v) = (m.union n).insert k v := by
  apply ext_get?
  intro j
  by_cases h : j = k <;> simp [h]

section Writing

variable {f : AddressMap γ → Address → β → AddressMap γ} {g : β → Option γ}
  (hf : ∀ m k v j, (f m k v).get? j = if j = k then g v else m.get? j)

include hf

theorem writeAll_insert (m : AddressMap γ) (n : AddressMap β) (k : Address) (v : β) :
    writeAll f m (n.insert k v) = f (writeAll f m n) k v := by
  apply ext_get?
  intro j
  rw [hf, get?_writeAll hf, get?_writeAll hf, get?_insert]
  by_cases h : j = k <;> simp [h]

theorem writeAll_union (m : AddressMap γ) (n p : AddressMap β) :
    writeAll f m (n.union p) = writeAll f (writeAll f m n) p := by
  apply ext_get?
  intro j
  rw [get?_writeAll hf, get?_writeAll hf, get?_writeAll hf, get?_union]
  cases p.get? j <;> rfl

end Writing

end AddressMap
end StakingIndexer
