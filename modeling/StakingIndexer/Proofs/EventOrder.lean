import Mathlib
import StakingIndexer.Event
import StakingIndexer.Proofs.StableSort

/-!
# Events by place

Folding takes events by place, and of the events of one place the first. What it takes from
a list is determined by the first event of each place, whatever the order of the others.
Lists of events over consecutive blocks are therefore taken one behind the other.
-/

namespace StakingIndexer
namespace Event

def Before (a b : Event) : Prop := a.block < b.block ∨ a.block = b.block ∧ a.index < b.index

instance (a b : Event) : Decidable (Before a b) := inferInstanceAs (Decidable (_ ∨ _))

theorem key_eq_iff {a b : Event} : a.key = b.key ↔ a.block = b.block ∧ a.index = b.index := by
  simp [key]

theorem keyLe_iff (a b : Event) :
    keyLe a b ↔ a.block < b.block ∨ a.block = b.block ∧ a.index ≤ b.index := by
  simp [keyLe]

theorem keyLe_trans (a b c : Event) (hab : keyLe a b) (hbc : keyLe b c) : keyLe a c := by
  rw [keyLe_iff] at *
  grind

theorem keyLe_total (a b : Event) : keyLe a b || keyLe b a := by
  rw [Bool.or_eq_true, keyLe_iff, keyLe_iff]
  grind

theorem keyLe_of_key_eq {a b : Event} (h : a.key = b.key) : keyLe a b := by
  rw [keyLe_iff]
  obtain ⟨hb, hi⟩ := key_eq_iff.1 h
  exact .inr ⟨hb, UInt64.le_of_eq hi⟩

theorem Before.key_ne {a b : Event} (h : Before a b) : a.key ≠ b.key := by
  intro he
  obtain ⟨hb, hi⟩ := key_eq_iff.1 he
  rcases h with h | ⟨-, h⟩
  · exact UInt64.ne_of_lt h hb
  · exact UInt64.ne_of_lt h hi

theorem Before.asymm {a b : Event} (h : Before a b) : ¬ Before b a := by
  unfold Before at *
  grind

theorem Before.trans_keyLe {a b c : Event} (h : Before a b) (hbc : keyLe b c) : Before a c := by
  rw [keyLe_iff] at hbc
  unfold Before at *
  grind

theorem before_of_keyLe {a b : Event} (h : keyLe a b) (hne : a.key ≠ b.key) : Before a b := by
  rw [keyLe_iff] at h
  rw [Ne, key_eq_iff] at hne
  unfold Before
  grind

theorem pairwise_sortByKey (l : List Event) : (sortByKey l).Pairwise (keyLe · ·) :=
  List.pairwise_mergeSort keyLe_trans keyLe_total l

theorem sortByKey_perm (l : List Event) : (sortByKey l).Perm l := List.mergeSort_perm l keyLe

/-- Sorting is stable: the events of one place stay in the order given. -/
theorem filter_sortByKey (l : List Event) (k : UInt64 × UInt64) :
    (sortByKey l).filter (·.key = k) = l.filter (·.key = k) := by
  refine StableSort.filter_mergeSort_of_tied keyLe_trans keyLe_total (fun a b ha hb => ?_) l
  simp only [decide_eq_true_eq] at ha hb
  exact keyLe_of_key_eq (ha.trans hb.symm)

theorem find?_sortByKey (l : List Event) (k : UInt64 × UInt64) :
    (sortByKey l).find? (·.key = k) = l.find? (·.key = k) := by
  rw [← List.head?_filter, filter_sortByKey, List.head?_filter]

theorem after_subset (k : UInt64 × UInt64) (l : List Event) : dropRepeats.after k l ⊆ l := by
  induction l generalizing k with
  | nil => exact List.Subset.refl _
  | cons e l ih =>
    unfold dropRepeats.after
    split_ifs
    · exact List.subset_cons_of_subset _ (ih _)
    · exact List.cons_subset_cons _ (ih _)

theorem pairwise_after {e : Event} {l : List Event}
    (h : (e :: l).Pairwise (keyLe · ·)) :
    (e :: dropRepeats.after e.key l).Pairwise Before := by
  induction l generalizing e with
  | nil => simp [dropRepeats.after]
  | cons x l ih =>
    obtain ⟨he, hl⟩ := List.pairwise_cons.1 h
    unfold dropRepeats.after
    split_ifs with hx
    · exact ih (List.pairwise_cons.2
        ⟨fun y hy => he y (by simp [hy]), (List.pairwise_cons.1 hl).2⟩)
    · have hex : Before e x := before_of_keyLe (he x (by simp)) (Ne.symm hx)
      refine List.pairwise_cons.2 ⟨fun y hy => ?_, ih hl⟩
      rcases List.mem_cons.1 hy with rfl | hy
      · exact hex
      · exact hex.trans_keyLe ((List.pairwise_cons.1 hl).1 y (after_subset _ _ hy))

theorem pairwise_dropRepeats {l : List Event} (h : l.Pairwise (keyLe · ·)) :
    (dropRepeats l).Pairwise Before := by
  cases l with
  | nil => exact .nil
  | cons e l => exact pairwise_after h

theorem find?_after (k j : UInt64 × UInt64) (l : List Event) (h : j ≠ k) :
    (dropRepeats.after k l).find? (·.key = j) = l.find? (·.key = j) := by
  induction l generalizing k with
  | nil => rfl
  | cons e l ih =>
    unfold dropRepeats.after
    split_ifs with he
    · rw [ih k h, List.find?_cons_of_neg (by simp [he, h.symm])]
    · by_cases hj : e.key = j
      · simp [hj]
      · rw [List.find?_cons_of_neg (by simp [hj]), List.find?_cons_of_neg (by simp [hj]),
          ih _ (Ne.symm hj)]

theorem find?_dropRepeats (l : List Event) (k : UInt64 × UInt64) :
    (dropRepeats l).find? (·.key = k) = l.find? (·.key = k) := by
  cases l with
  | nil => rfl
  | cons e l =>
    unfold dropRepeats
    by_cases hk : e.key = k
    · simp [hk]
    · rw [List.find?_cons_of_neg (by simp [hk]), List.find?_cons_of_neg (by simp [hk]),
        find?_after _ _ _ (Ne.symm hk)]

/-- The events that a fold takes from a list, in the order in which it takes them. -/
def ordered (l : List Event) : List Event := dropRepeats (sortByKey l)

theorem pairwise_ordered (l : List Event) : (ordered l).Pairwise Before :=
  pairwise_dropRepeats (pairwise_sortByKey l)

theorem find?_ordered (l : List Event) (k : UInt64 × UInt64) :
    (ordered l).find? (·.key = k) = l.find? (·.key = k) := by
  rw [ordered, find?_dropRepeats, find?_sortByKey]

theorem nodup_keys_of_pairwise {l : List Event} (h : l.Pairwise Before) :
    (l.map key).Nodup := by
  rw [List.nodup_iff_pairwise_ne, List.pairwise_map]
  exact h.imp Before.key_ne

theorem nodup_keys_filter {l : List Event} (h : (l.map key).Nodup) (p : Event → Bool) :
    ((l.filter p).map key).Nodup :=
  h.sublist (List.filter_sublist.map key)

/-- Events of one place are the same event, which may be given more than once. -/
def OnePerPlace (l : List Event) : Prop := ∀ x ∈ l, ∀ y ∈ l, x.key = y.key → x = y

instance (l : List Event) : Decidable (OnePerPlace l) :=
  inferInstanceAs (Decidable (∀ x ∈ l, ∀ y ∈ l, x.key = y.key → x = y))

theorem onePerPlace_of_nodup {l : List Event} (h : (l.map key).Nodup) : OnePerPlace l :=
  fun _ hx _ hy hkey => List.inj_on_of_nodup_map h hx hy hkey

theorem onePerPlace_of_pairwise {l : List Event} (h : l.Pairwise Before) : OnePerPlace l :=
  onePerPlace_of_nodup (nodup_keys_of_pairwise h)

theorem find?_key_iff {l : List Event} (h : OnePerPlace l) (e : Event) :
    l.find? (·.key = e.key) = some e ↔ e ∈ l := by
  constructor
  · exact List.mem_of_find?_eq_some
  · intro he
    obtain ⟨x, hx⟩ : ∃ x, l.find? (·.key = e.key) = some x :=
      Option.isSome_iff_exists.1 (List.find?_isSome.2 ⟨e, he, by simp⟩)
    have hk : x.key = e.key := by simpa using List.find?_some hx
    rw [hx, h x (List.mem_of_find?_eq_some hx) e he hk]

/-- A fold takes the first event of each place. -/
theorem mem_ordered {l : List Event} {e : Event} :
    e ∈ ordered l ↔ l.find? (·.key = e.key) = some e := by
  rw [← find?_key_iff (onePerPlace_of_pairwise (pairwise_ordered l)), find?_ordered]

theorem mem_of_mem_ordered {l : List Event} {e : Event} (h : e ∈ ordered l) : e ∈ l :=
  List.mem_of_find?_eq_some (mem_ordered.1 h)

theorem eq_of_pairwise_before {l m : List Event} (hl : l.Pairwise Before)
    (hm : m.Pairwise Before) (h : ∀ e, e ∈ l ↔ e ∈ m) : l = m := by
  have hperm : l.Perm m :=
    (List.perm_ext_iff_of_nodup (nodup_keys_of_pairwise hl).of_map
      (nodup_keys_of_pairwise hm).of_map).2 h
  exact hperm.eq_of_pairwise (fun a b _ _ hab hba => absurd hba hab.asymm) hl hm

theorem pairwise_before_sortByKey {l : List Event} (hkeys : (l.map key).Nodup) :
    (sortByKey l).Pairwise Before := by
  have hsorted : ((sortByKey l).map key).Nodup :=
    ((sortByKey_perm l).map key).nodup_iff.2 hkeys
  rw [List.nodup_iff_pairwise_ne, List.pairwise_map] at hsorted
  exact (pairwise_sortByKey l).imp₂ (fun _ _ => before_of_keyLe) hsorted

/-- Sorting does not see the order in which events at different places are given. -/
theorem sortByKey_eq_of_perm {l m : List Event} (h : l.Perm m) (hkeys : (l.map key).Nodup) :
    sortByKey l = sortByKey m := by
  have hkeys' : (m.map key).Nodup := (h.map key).nodup_iff.1 hkeys
  refine eq_of_pairwise_before (pairwise_before_sortByKey hkeys)
    (pairwise_before_sortByKey hkeys') fun e => ?_
  rw [(sortByKey_perm l).mem_iff, (sortByKey_perm m).mem_iff, h.mem_iff]

theorem ordered_eq_self {l : List Event} (h : l.Pairwise Before) : ordered l = l :=
  eq_of_pairwise_before (pairwise_ordered l) h fun e => by
    rw [mem_ordered, find?_key_iff (onePerPlace_of_pairwise h)]

/-- What is taken from lists that hold the same events is the same, in whatever order they stand
and however often each of them is given. -/
theorem ordered_eq_of_same {l m : List Event} (hl : OnePerPlace l) (h : ∀ e, e ∈ l ↔ e ∈ m) :
    ordered l = ordered m := by
  have hm : OnePerPlace m := fun x hx y hy => hl x ((h x).2 hx) y ((h y).2 hy)
  refine eq_of_pairwise_before (pairwise_ordered l) (pairwise_ordered m) fun e => ?_
  rw [mem_ordered, mem_ordered, find?_key_iff hl, find?_key_iff hm, h]

theorem ordered_perm {l m : List Event} (h : l.Perm m) (hkeys : (l.map key).Nodup) :
    ordered l = ordered m :=
  ordered_eq_of_same (onePerPlace_of_nodup hkeys) fun _ => h.mem_iff

theorem ordered_perm_self {l : List Event} (hkeys : (l.map key).Nodup) :
    (ordered l).Perm l := by
  refine (List.perm_ext_iff_of_nodup (nodup_keys_of_pairwise (pairwise_ordered l)).of_map
    hkeys.of_map).2 fun e => ?_
  rw [mem_ordered, find?_key_iff (onePerPlace_of_nodup hkeys)]

theorem ordered_nil : ordered [] = [] := by simp [ordered, sortByKey, dropRepeats]

theorem ordered_eq_nil_iff {l : List Event} : ordered l = [] ↔ l = [] := by
  constructor
  · intro h
    rw [List.eq_nil_iff_forall_not_mem]
    intro e he
    have hfind := find?_ordered l e.key
    rw [h, List.find?_nil, eq_comm, List.find?_eq_none] at hfind
    exact hfind e he (by simp)
  · rintro rfl
    exact ordered_nil

def BlocksBefore (l m : List Event) : Prop := ∀ x ∈ l, ∀ y ∈ m, x.block < y.block

instance (l m : List Event) : Decidable (BlocksBefore l m) :=
  inferInstanceAs (Decidable (∀ x ∈ l, ∀ y ∈ m, x.block < y.block))

theorem ordered_append {l m : List Event} (h : BlocksBefore l m) :
    ordered (l ++ m) = ordered l ++ ordered m := by
  have hsplit : (ordered l ++ ordered m).Pairwise Before :=
    List.pairwise_append.2 ⟨pairwise_ordered l, pairwise_ordered m, fun x hx y hy =>
      .inl (h x (mem_of_mem_ordered hx) y (mem_of_mem_ordered hy))⟩
  refine eq_of_pairwise_before (pairwise_ordered _) hsplit fun e => ?_
  rw [List.mem_append, mem_ordered, mem_ordered, mem_ordered, List.find?_append]
  cases hl : l.find? (·.key = e.key) with
  | some x =>
    -- an event of the same place in the later list would share the block
    have hm : m.find? (·.key = e.key) = none := by
      rw [List.find?_eq_none]
      intro y hy hk
      have hx : x.key = e.key := by simpa using List.find?_some hl
      have hxy := (key_eq_iff.1 (hx.trans (of_decide_eq_true hk).symm)).1
      exact UInt64.ne_of_lt (h x (List.mem_of_find?_eq_some hl) y hy) hxy
    simp [hm]
  | none => simp

end Event
end StakingIndexer
