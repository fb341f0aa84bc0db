import Mathlib

/-!
# Stable sorting

Sorting keeps the elements of one key in the order in which they came. A list in the order of
its keys is determined by what it holds of each key, so that lists which were sorted along
different ways are compared key by key.
-/

namespace StakingIndexer
namespace StableSort

variable {α κ : Type} {le : α → α → Bool}

/-- Elements that tie with each other come out as they went in. -/
theorem filter_mergeSort_of_tied (htrans : ∀ a b c, le a b → le b c → le a c)
    (htotal : ∀ a b, le a b || le b a) {p : α → Bool} (htied : ∀ a b, p a → p b → le a b)
    (l : List α) : (l.mergeSort le).filter p = l.filter p := by
  have hsame : (l.filter p).Pairwise (le · ·) := by
    refine List.pairwise_of_forall_mem_list fun a ha b hb => ?_
    exact htied a b (List.mem_filter.1 ha).2 (List.mem_filter.1 hb).2
  have hsub : (l.filter p).Sublist (l.mergeSort le) :=
    List.sublist_mergeSort htrans htotal hsame List.filter_sublist
  have hsub' := hsub.filter p
  rw [List.filter_filter] at hsub'
  simp only [Bool.and_self] at hsub'
  have hlen := ((List.mergeSort_perm l le).filter p).length_eq
  exact (hsub'.eq_of_length hlen.symm).symm

variable [DecidableEq κ] {r : κ → κ → Prop}

/-- Lists in the order of their keys are equal if they hold the same elements of each key, in
the same order. -/
theorem eq_of_filter_key (key : α → κ) (hr : ∀ j k, r j k → r k j → j = k) {l m : List α}
    (hl : l.Pairwise fun a b => r (key a) (key b)) (hm : m.Pairwise fun a b => r (key a) (key b))
    (h : ∀ k, l.filter (key · = k) = m.filter (key · = k)) : l = m := by
  induction l generalizing m with
  | nil =>
    cases m with
    | nil => rfl
    | cons b m =>
      have hb := h (key b)
      simp at hb
  | cons a l ih =>
    cases m with
    | nil =>
      have ha := h (key a)
      simp at ha
    | cons b m =>
      obtain ⟨hal, hltail⟩ := List.pairwise_cons.1 hl
      obtain ⟨hbm, hmtail⟩ := List.pairwise_cons.1 hm
      have hkey : key a = key b := by
        by_contra hne
        -- each head would stand somewhere in the other list's tail
        have ha : a ∈ (b :: m).filter (key · = key a) := h (key a) ▸ by simp
        have hb : b ∈ (a :: l).filter (key · = key b) := h (key b) ▸ by simp
        simp only [List.mem_filter, List.mem_cons, decide_eq_true_eq, and_true] at ha hb
        have ham : a ∈ m := ha.resolve_left fun e => hne (congrArg key e)
        have hbl : b ∈ l := hb.resolve_left fun e => hne (congrArg key e.symm)
        exact hne (hr _ _ (hal b hbl) (hbm a ham))
      have hhead := h (key a)
      simp only [List.filter_cons, hkey, decide_true, if_true, List.cons.injEq] at hhead
      obtain ⟨rfl, -⟩ := hhead
      refine congrArg (a :: ·) (ih hltail hmtail fun k => ?_)
      have hk := h k
      by_cases hak : key a = k
      · simpa [List.filter_cons, hak] using hk
      · simpa [List.filter_cons, hak] using hk

end StableSort
end StakingIndexer
