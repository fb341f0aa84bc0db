import Mathlib
import StakingIndexer.Proofs.EventOrder
import StakingIndexer.Reader.Events

/-!
# Cutting a window of blocks

The windows into which a window is cut hold each of its blocks once. Reading them in turn
therefore finds the events of the whole, in an order that sorting does not see.
-/

namespace StakingIndexer

namespace Word

theorem toNat_succ {a b : UInt64} (h : a < b) : (a + 1).toNat = a.toNat + 1 := by
  have hlt := UInt64.lt_iff_toNat_lt.1 h
  have hb := b.toNat_lt
  rw [UInt64.toNat_add]
  exact Nat.mod_eq_of_lt (by simp only [UInt64.reduceToNat]; omega)

theorem toNat_min (a b : UInt64) : (min a b).toNat = min a.toNat b.toNat := by
  simp only [Min.min, UInt64.le_iff_toNat_le]
  split <;> rfl

theorem toNat_max (a b : UInt64) : (max a b).toNat = max a.toNat b.toNat := by
  simp only [Max.max, UInt64.le_iff_toNat_le]
  split <;> rfl

theorem min_le_right (a b : UInt64) : min a b ≤ b := by
  rw [UInt64.le_iff_toNat_le, toNat_min]
  exact Nat.min_le_right _ _

theorem le_min_satAdd {a c : UInt64} (h : a ≤ c) (b : UInt64) : a ≤ min (satAdd a b) c := by
  have ha := a.toNat_lt
  rw [UInt64.le_iff_toNat_le] at h ⊢
  rw [toNat_min, toNat_satAdd, UInt64.size]
  omega

theorem one_le_max (a : UInt64) : 1 ≤ max a 1 := by
  rw [UInt64.le_iff_toNat_le, toNat_max]
  exact Nat.le_max_right _ _

theorem succ_le_iff {a b : UInt64} (h : a < b) (c : UInt64) : a + 1 ≤ c ↔ a < c := by
  rw [UInt64.le_iff_toNat_le, UInt64.lt_iff_toNat_lt, toNat_succ h]
  exact Nat.succ_le_iff

end Word

namespace BlockWindow

theorem contains_iff (w : BlockWindow) (block : UInt64) :
    w.contains block ↔ w.first ≤ block ∧ block ≤ w.last := by
  simp [contains]

theorem toNat_stop (first last range : UInt64) :
    (min (Word.satAdd first (max range 1 - 1)) last).toNat
      = min (first.toNat + (max range.toNat 1 - 1)) last.toNat := by
  have hlast : last.toNat < UInt64.size := last.toNat_lt
  rw [Word.toNat_min, Word.toNat_satAdd, UInt64.toNat_sub_of_le _ _ (Word.one_le_max range),
    Word.toNat_max, UInt64.toNat_one]
  omega

/-- Whether a window lies between two blocks and covers no more blocks than a range, of which
zero counts as one. -/
def Fits (v : BlockWindow) (first last range : UInt64) : Prop :=
  first ≤ v.first ∧ v.first ≤ v.last ∧ v.last ≤ last ∧
    v.last.toNat - v.first.toNat + 1 ≤ max range.toNat 1

/-- The windows of a plan lie within the window that is cut and keep to the range. -/
theorem fits_of_mem_plan {first last range : UInt64} {v : BlockWindow}
    (h : v ∈ plan first last range) : v.Fits first last range := by
  have hwidth (first range : UInt64) (hle : first ≤ last) :
      Fits ⟨first, min (Word.satAdd first (max range 1 - 1)) last⟩ first last range := by
    refine ⟨UInt64.le_refl _, Word.le_min_satAdd hle _, Word.min_le_right _ _, ?_⟩
    rw [toNat_stop]
    dsimp only
    omega
  fun_induction plan first last range with
  | case1 first range width hle stop hlt ih =>
    rcases List.mem_cons.1 h with rfl | h
    · exact hwidth first range hle
    · obtain ⟨hfirst, hordered, hlast, hblocks⟩ := ih h
      refine ⟨?_, hordered, hlast, ?_⟩
      · have hstop : first ≤ stop := Word.le_min_satAdd hle (width - 1)
        exact UInt64.le_trans hstop (UInt64.le_of_lt ((Word.succ_le_iff hlt _).1 hfirst))
      · rwa [Word.toNat_max, UInt64.toNat_one, Nat.max_assoc, Nat.max_self] at hblocks
  | case2 first range width hle stop hlt =>
    rw [List.mem_singleton.1 h]
    exact hwidth first range hle
  | case3 first range hle => cases h

theorem pairwise_plan (first last range : UInt64) :
    (plan first last range).Pairwise fun v w => v.last < w.first := by
  fun_induction plan first last range with
  | case1 first range width hle stop hlt ih =>
    refine List.pairwise_cons.2 ⟨fun w hw => ?_, ih⟩
    exact (Word.succ_le_iff hlt _).1 (fits_of_mem_plan hw).1
  | case2 first range width hle stop hlt => exact List.pairwise_singleton _ _
  | case3 first range hle => exact .nil

theorem nodup_plan (first last range : UInt64) : (plan first last range).Nodup := by
  refine (pairwise_plan first last range).imp_of_mem fun {v w} hv _ hbefore heq => ?_
  rw [← heq] at hbefore
  exact UInt64.not_le.2 hbefore (fits_of_mem_plan hv).2.1

end BlockWindow

namespace Event

def within (w : BlockWindow) (l : List Event) : List Event :=
  l.filter fun e => w.contains e.block

theorem mem_within {w : BlockWindow} {l : List Event} {e : Event} :
    e ∈ within w l ↔ e ∈ l ∧ w.first ≤ e.block ∧ e.block ≤ w.last := by
  rw [within, List.mem_filter, BlockWindow.contains_iff]

theorem nodup_keys_within {l : List Event} (h : (l.map key).Nodup) (w : BlockWindow) :
    ((within w l).map key).Nodup :=
  nodup_keys_filter h _

theorem within_of_lt {w : BlockWindow} (h : w.last < w.first) (l : List Event) :
    within w l = [] := by
  rw [List.eq_nil_iff_forall_not_mem]
  intro e he
  obtain ⟨-, hfirst, hlast⟩ := mem_within.1 he
  exact UInt64.not_le.2 h (UInt64.le_trans hfirst hlast)

theorem blocksBefore_within {mid : UInt64} {v w : BlockWindow} (hv : v.last ≤ mid)
    (hw : mid < w.first) (l : List Event) : BlocksBefore (within v l) (within w l) := by
  intro x hx y hy
  have hxmid := UInt64.le_trans (mem_within.1 hx).2.2 hv
  have hymid := UInt64.lt_of_lt_of_le hw (mem_within.1 hy).2.1
  exact UInt64.lt_of_le_of_lt hxmid hymid

theorem within_perm_append {first mid last : UInt64} (hmid : first ≤ mid + 1)
    (hlast : mid < last) (l : List Event) :
    (within ⟨first, last⟩ l).Perm (within ⟨first, mid⟩ l ++ within ⟨mid + 1, last⟩ l) := by
  have hleft : within ⟨first, mid⟩ l
      = (within ⟨first, last⟩ l).filter fun e => e.block ≤ mid := by
    rw [within, within, List.filter_filter]
    refine List.filter_congr fun e _ => ?_
    rw [Bool.eq_iff_iff, BlockWindow.contains_iff, Bool.and_eq_true, BlockWindow.contains_iff]
    grind
  have hright : within ⟨mid + 1, last⟩ l
      = (within ⟨first, last⟩ l).filter fun e => !decide (e.block ≤ mid) := by
    rw [within, within, List.filter_filter]
    refine List.filter_congr fun e _ => ?_
    have hsucc := Word.succ_le_iff hlast e.block
    rw [Bool.eq_iff_iff, BlockWindow.contains_iff, Bool.and_eq_true, BlockWindow.contains_iff]
    grind
  rw [hleft, hright]
  exact (List.filter_append_perm _ _).symm

/-- The windows of a plan hold the events of the window that is cut, each once. -/
theorem flatMap_plan_perm (first last range : UInt64) (l : List Event) :
    ((BlockWindow.plan first last range).flatMap fun w => within w l).Perm
      (within ⟨first, last⟩ l) := by
  fun_induction BlockWindow.plan first last range with
  | case1 first range width hle stop hlt ih =>
    have hfirst : first ≤ stop + 1 := by
      have hstop : first ≤ stop := Word.le_min_satAdd hle (width - 1)
      rw [UInt64.le_iff_toNat_le] at hstop ⊢
      rw [Word.toNat_succ hlt]
      exact Nat.le_succ_of_le hstop
    rw [List.flatMap_cons]
    exact (ih.append_left _).trans (within_perm_append hfirst hlt l).symm
  | case2 first range width hle stop hlt =>
    have hstop : stop = last :=
      UInt64.le_antisymm (Word.min_le_right _ _) (UInt64.not_lt.1 hlt)
    simp [hstop]
  | case3 first range hle =>
    rw [within_of_lt (UInt64.not_le.1 hle)]
    exact .refl _

end Event
end StakingIndexer
