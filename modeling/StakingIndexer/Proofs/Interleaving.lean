import Mathlib

/-!
# Interleavings

Sequences of steps, one for each key, are interleaved. Where steps of different keys commute, all
interleavings lead to the same state.
-/

namespace StakingIndexer
namespace Interleaving

variable {α κ σ : Type} {f : σ → α → σ} {key : α → κ} {I : σ → Prop}

/-- A step goes before steps of other keys. -/
theorem foldl_move (hkeep : ∀ s a, I s → I (f s a))
    (hcomm : ∀ s a b, I s → key a ≠ key b → f (f s a) b = f (f s b) a)
    {a : α} {l : List α} (hne : ∀ b ∈ l, key b ≠ key a) (s : σ) (hs : I s) :
    f (l.foldl f s) a = l.foldl f (f s a) := by
  induction l generalizing s with
  | nil => rfl
  | cons b l ih =>
    have hcons := ih (fun c hc => hne c (by simp [hc])) (f s b) (hkeep s b hs)
    rw [List.foldl_cons, List.foldl_cons, hcons, hcomm s b a hs (hne b (by simp))]

variable [DecidableEq κ]

/-- Lists with the same steps of each key, in the same order, are interleavings of the same
sequences. -/
theorem foldl_eq_of_filter_key (hkeep : ∀ s a, I s → I (f s a))
    (hcomm : ∀ s a b, I s → key a ≠ key b → f (f s a) b = f (f s b) a)
    {l m : List α} (h : ∀ k, l.filter (key · = k) = m.filter (key · = k)) {s : σ} (hs : I s) :
    l.foldl f s = m.foldl f s := by
  induction l generalizing m s with
  | nil =>
    cases m with
    | nil => rfl
    | cons b m =>
      have hb := h (key b)
      simp at hb
  | cons a l ih =>
    have hfirst := h (key a)
    rw [List.filter_cons_of_pos (by simp)] at hfirst
    obtain ⟨before, after, rfl, hbefore, -, hafter⟩ := List.filter_eq_cons_iff.1 hfirst.symm
    have hne : ∀ b ∈ before, key b ≠ key a := fun b hb => by simpa using hbefore b hb
    have hrest : ∀ k, l.filter (key · = k) = (before ++ after).filter (key · = k) := by
      intro k
      have hk := h k
      by_cases hak : key a = k
      · subst hak
        have hnil : before.filter (key · = key a) = [] :=
          List.filter_eq_nil_iff.2 fun b hb => by simpa using hne b hb
        rw [List.filter_append, hnil, List.nil_append, hafter]
      · simpa [List.filter_append, hak] using hk
    have htail := ih hrest (hkeep s a hs)
    rw [List.foldl_cons, htail, List.foldl_append, List.foldl_append, List.foldl_cons,
      foldl_move hkeep hcomm hne s hs]

theorem filter_key_append (l : List α) (t k : κ) :
    l.filter (key · = k) = (l.filter (key · = t) ++ l.filter (key · ≠ t)).filter (key · = k) := by
  rw [List.filter_append, List.filter_filter, List.filter_filter]
  by_cases htk : t = k
  · subst htk
    simp
  · have hnone : l.filter (fun a => decide (key a = k) && decide (key a = t)) = [] := by
      refine List.filter_eq_nil_iff.2 fun a _ h => ?_
      simp only [Bool.and_eq_true, decide_eq_true_eq] at h
      exact htk (h.2.symm.trans h.1)
    rw [hnone, List.nil_append]
    refine List.filter_congr fun a _ => ?_
    by_cases hak : key a = k
    · simp [hak, Ne.symm htk]
    · simp [hak]

end Interleaving
end StakingIndexer
