import Mathlib
import StakingIndexer.Proofs.Reader.Plan

/-!
# A plan is the partition of its window

A plan cuts a window into full parts, which hold as many blocks as the range allows, and a last
part that may be shorter. It is what a loop over words gathers: no sum and no difference of the
loop leaves the words, and the loop ends, also when the last part holds the greatest block.
-/

namespace StakingIndexer

namespace Word

def checkedSub (a b : UInt64) : Option UInt64 := if b ≤ a then some (a - b) else none

theorem checkedAdd_one {a b : UInt64} (h : a < b) : checkedAdd a 1 = some (a + 1) := by
  have hsucc := toNat_succ h
  have hword : a.toNat + (1 : UInt64).toNat < UInt64.size := by
    rw [UInt64.toNat_one, ← hsucc]
    exact (a + 1).toNat_lt
  rw [checkedAdd, ofNat?, if_pos hword, UInt64.toNat_one, ← hsucc, UInt64.ofNat_toNat]

theorem succ_le_of_lt {a b : UInt64} (h : a < b) : a + 1 ≤ b := (succ_le_iff h b).2 h

end Word

namespace BlockWindow

/-- How many blocks a window holds that is not reversed. -/
def size (w : BlockWindow) : Nat := w.last.toNat + 1 - w.first.toNat

/-- Parts of `width` blocks that follow each other from `first` on, and behind them the part that
ends with `last`, which may be shorter. -/
inductive Cut (last : UInt64) (width : Nat) : UInt64 → List BlockWindow → Prop
  | nothing {first : UInt64} (hbehind : last < first) : Cut last width first []
  | remainder {first : UInt64} (hle : first ≤ last) (hshort : last.toNat < first.toNat + width) :
      Cut last width first [⟨first, last⟩]
  | full {first stop : UInt64} {parts : List BlockWindow} (hstop : stop < last)
      (hfull : stop.toNat + 1 = first.toNat + width) (hrest : Cut last width (stop + 1) parts) :
      Cut last width first (⟨first, stop⟩ :: parts)

theorem cut_plan (first last range : UInt64) :
    Cut last (max range.toNat 1) first (plan first last range) := by
  fun_induction plan first last range with
  | case1 first range width hle stop hlt ih =>
    have hstop : stop.toNat = _ := toNat_stop first last range
    have hlt' := UInt64.lt_iff_toNat_lt.1 hlt
    -- Behind the first part the range is the width, which is at least one.
    rw [Word.toNat_max, UInt64.toNat_one, Nat.max_assoc, Nat.max_self] at ih
    exact .full hlt (by omega) ih
  | case2 first range width hle stop hlt =>
    have hstop : stop.toNat = _ := toNat_stop first last range
    have hall : stop = last := UInt64.le_antisymm (Word.min_le_right _ _) (UInt64.not_lt.1 hlt)
    rw [hall] at hstop ⊢
    exact .remainder hle (by omega)
  | case3 first range hle => exact .nothing (UInt64.not_le.1 hle)

namespace Cut

variable {first last : UInt64} {width : Nat} {parts : List BlockWindow}

theorem eq_nil_iff (h : Cut last width first parts) : parts = [] ↔ last < first := by
  cases h with
  | nothing hbehind => exact iff_of_true rfl hbehind
  | remainder hle _ => exact iff_of_false (List.cons_ne_nil _ _) (UInt64.not_lt.2 hle)
  | full hstop hfull _ =>
    refine iff_of_false (List.cons_ne_nil _ _) (UInt64.not_lt.2 ?_)
    rw [UInt64.lt_iff_toNat_lt] at hstop
    rw [UInt64.le_iff_toNat_le]
    omega

theorem first_le {v : BlockWindow} (h : Cut last width first (v :: parts)) : first ≤ last :=
  UInt64.not_lt.1 (mt h.eq_nil_iff.2 (List.cons_ne_nil v parts))

theorem ne_nil_of_lt {stop : UInt64} (hstop : stop < last) (h : Cut last width (stop + 1) parts) :
    parts ≠ [] := by
  rw [Ne, h.eq_nil_iff, UInt64.not_lt]
  exact Word.succ_le_of_lt hstop

theorem head?_eq (h : Cut last width first parts) :
    parts.head?.map BlockWindow.first = if first ≤ last then some first else none := by
  cases h with
  | nothing hbehind => rw [if_neg (UInt64.not_le.2 hbehind)]; rfl
  | remainder hle _ => rw [if_pos hle]; rfl
  | full hstop hfull hrest =>
    rw [if_pos (first_le (.full hstop hfull hrest))]
    rfl

theorem getLast?_eq (h : Cut last width first parts) :
    parts.getLast?.map BlockWindow.last = if first ≤ last then some last else none := by
  induction h with
  | nothing hbehind => rw [if_neg (UInt64.not_le.2 hbehind)]; rfl
  | remainder hle _ => rw [if_pos hle]; rfl
  | full hstop hfull hrest ih =>
    rw [if_pos (Word.succ_le_of_lt hstop)] at ih
    rw [if_pos (first_le (.full hstop hfull hrest)),
      List.getLast?_cons_of_ne_nil (ne_nil_of_lt hstop hrest), ih]

theorem isChain (h : Cut last width first parts) :
    parts.IsChain fun v w => w.first.toNat = v.last.toNat + 1 := by
  induction h with
  | nothing _ => exact .nil
  | remainder _ _ => exact .singleton _
  | full hstop hfull hrest ih =>
    refine List.isChain_cons.2 ⟨fun w hw => ?_, ih⟩
    have hhead := hrest.head?_eq
    rw [if_pos (Word.succ_le_of_lt hstop), Option.mem_def.1 hw] at hhead
    rw [Option.some.inj hhead, Word.toNat_succ hstop]

theorem size_of_mem_dropLast (h : Cut last width first parts) :
    ∀ v ∈ parts.dropLast, v.size = width := by
  induction h with
  | nothing _ => simp
  | remainder _ _ => simp
  | full hstop hfull hrest ih =>
    rw [List.dropLast_cons_of_ne_nil (ne_nil_of_lt hstop hrest)]
    refine List.forall_mem_cons.2 ⟨?_, ih⟩
    rw [size]
    dsimp only
    omega

theorem size_of_mem_getLast? (h : Cut last width first parts) :
    ∀ v ∈ parts.getLast?, 1 ≤ v.size ∧ v.size ≤ width := by
  induction h with
  | nothing _ => simp
  | remainder hle hshort =>
    intro v hv
    rw [List.getLast?_singleton, Option.mem_some] at hv
    rw [UInt64.le_iff_toNat_le] at hle
    rw [← hv, size]
    dsimp only
    omega
  | full hstop hfull hrest ih =>
    rwa [List.getLast?_cons_of_ne_nil (ne_nil_of_lt hstop hrest)]

theorem countP_contains (h : Cut last width first parts) (block : UInt64) :
    parts.countP (·.contains block) = if first ≤ block ∧ block ≤ last then 1 else 0 := by
  induction h with
  | nothing hbehind =>
    rw [if_neg fun hwithin => UInt64.not_lt.2 (UInt64.le_trans hwithin.1 hwithin.2) hbehind]
    rfl
  | remainder hle hshort => simp [List.countP_cons, contains]
  | full hstop hfull hrest ih =>
    have hnext := Word.succ_le_iff hstop block
    rw [List.countP_cons, ih]
    simp only [contains_iff, hnext]
    simp only [UInt64.le_iff_toNat_le, UInt64.lt_iff_toNat_lt] at hstop ⊢
    split_ifs <;> omega

theorem length_eq (h : Cut last width first parts) (hwidth : 1 ≤ width) :
    parts.length = (last.toNat + 1 - first.toNat) ⌈/⌉ width := by
  induction h with
  | nothing hbehind =>
    rw [UInt64.lt_iff_toNat_lt] at hbehind
    rw [Nat.sub_eq_zero_of_le hbehind, zero_ceilDiv]
    rfl
  | remainder hle hshort =>
    rw [UInt64.le_iff_toNat_le] at hle
    rw [Nat.ceilDiv_eq_add_pred_div, List.length_singleton]
    refine (Nat.div_eq_of_lt_le ?_ ?_).symm <;> omega
  | @full first stop parts hstop hfull hrest ih =>
    have hblocks : last.toNat + 1 - first.toNat + width - 1
        = (last.toNat + 1 - (stop + 1).toNat + width - 1) + width := by
      rw [Word.toNat_succ hstop]
      rw [UInt64.lt_iff_toNat_lt] at hstop
      omega
    rw [List.length_cons, ih, Nat.ceilDiv_eq_add_pred_div, Nat.ceilDiv_eq_add_pred_div, hblocks,
      Nat.add_div_right _ hwidth]

end Cut

/-- How windows of at most `width` blocks share the blocks from `first` to `last`. -/
structure Partition (first last : UInt64) (width : Nat) (parts : List BlockWindow) : Prop where
  eq_nil_iff : parts = [] ↔ last < first
  starts : parts.head?.map BlockWindow.first = if first ≤ last then some first else none
  ends : parts.getLast?.map BlockWindow.last = if first ≤ last then some last else none
  consecutive : parts.IsChain fun v w => w.first.toNat = v.last.toNat + 1
  covers : ∀ block, parts.countP (·.contains block) = if first ≤ block ∧ block ≤ last then 1 else 0
  full : ∀ v ∈ parts.dropLast, v.size = width
  tail : ∀ v ∈ parts.getLast?, 1 ≤ v.size ∧ v.size ≤ width
  count : parts.length = (last.toNat + 1 - first.toNat) ⌈/⌉ width

/-- Where the loop stands that cuts a window: the first block that is not covered yet, and the
parts so far. -/
structure Progress where
  start : UInt64
  parts : List BlockWindow

/-- What a pass of the loop comes to. -/
inductive Pass where
  | again (p : Progress)
  | finished (parts : List BlockWindow)

namespace Progress

/-- A pass of the loop that cuts the blocks up to `last` into parts of `range` blocks. It comes to
nothing if a sum or a difference leaves the words. -/
def pass (last range : UInt64) (p : Progress) : Option Pass :=
  if p.start ≤ last then do
    let ahead ← Word.checkedSub range 1
    let stop := min (Word.satAdd p.start ahead) last
    let parts := p.parts ++ [⟨p.start, stop⟩]
    if stop = Word.maxU64 then return .finished parts
    let start ← Word.checkedAdd stop 1
    return .again ⟨start, parts⟩
  else return .finished p.parts

/-- What the loop comes to within a number of passes. -/
def run (last range : UInt64) : Nat → Progress → Option Pass
  | 0, p => some (.again p)
  | n + 1, p => do
    match ← p.pass last range with
    | .again p => run last range n p
    | .finished parts => return .finished parts

variable {start last range : UInt64}

theorem run_of_again {p q : Progress} (h : p.pass last range = some (.again q)) (n : Nat) :
    run last range (n + 1) p = run last range n q := by
  rw [run, h]
  rfl

theorem run_of_finished {p : Progress} {parts : List BlockWindow}
    (h : p.pass last range = some (.finished parts)) (n : Nat) :
    run last range (n + 1) p = some (.finished parts) := by
  rw [run, h]
  rfl

variable (parts : List BlockWindow)

theorem pass_behind (h : last < start) :
    pass last range ⟨start, parts⟩ = some (.finished parts) := by
  rw [pass, if_neg (UInt64.not_le.2 h)]
  rfl

/-- A pass cuts the next part off, and goes on with the block behind it. -/
theorem pass_of_le {stop : UInt64} (hle : start ≤ last) (hrange : 1 ≤ range)
    (hstop : min (Word.satAdd start (range - 1)) last = stop) :
    pass last range ⟨start, parts⟩
      = if stop = Word.maxU64 then some (.finished (parts ++ [⟨start, stop⟩]))
        else (Word.checkedAdd stop 1).map fun next => .again ⟨next, parts ++ [⟨start, stop⟩]⟩ := by
  simp only [pass, if_pos hle, Word.checkedSub, if_pos hrange, Option.bind_eq_bind,
    Option.bind_some, hstop, Option.map_eq_bind]
  rfl

theorem pass_of_lt {next stop : UInt64} (hle : start ≤ last) (hrange : 1 ≤ range)
    (hstop : min (Word.satAdd start (range - 1)) last = stop) (hnext : stop < next) :
    pass last range ⟨start, parts⟩ = some (.again ⟨stop + 1, parts ++ [⟨start, stop⟩]⟩) := by
  have hgreatest : stop ≠ Word.maxU64 := by
    intro heq
    have hword := next.toNat_lt
    rw [heq, UInt64.lt_iff_toNat_lt] at hnext
    simp only [Word.maxU64, UInt64.reduceToNat] at hnext
    omega
  rw [pass_of_le parts hle hrange hstop, if_neg hgreatest, Word.checkedAdd_one hnext]
  rfl

/-- Behind the last part the loop ends at once if no word is left, and else in the next pass. -/
theorem run_remainder (hle : start ≤ last) (hrange : 1 ≤ range)
    (hstop : min (Word.satAdd start (range - 1)) last = last) :
    run last range 2 ⟨start, parts⟩ = some (.finished (parts ++ [⟨start, last⟩])) := by
  by_cases hgreatest : last = Word.maxU64
  · refine run_of_finished ?_ 1
    rw [pass_of_le parts hle hrange hstop, if_pos hgreatest]
  · have hlt : last < Word.maxU64 := by
      have hword := last.toNat_lt
      have hne := mt UInt64.toNat_inj.1 hgreatest
      rw [UInt64.lt_iff_toNat_lt]
      simp only [Word.maxU64, UInt64.reduceToNat] at hne ⊢
      omega
    have hbehind : last < last + 1 := by
      rw [UInt64.lt_iff_toNat_lt, Word.toNat_succ hlt]
      exact Nat.lt_succ_self _
    rw [run_of_again (pass_of_lt parts hle hrange hstop hlt),
      run_of_finished (pass_behind _ hbehind)]

/-- The loop ends, with the parts of the plan, one pass behind the last of them at the latest. -/
theorem run_plan (first last range : UInt64) (parts : List BlockWindow) :
    run last (max range 1) ((plan first last range).length + 1) ⟨first, parts⟩
      = some (.finished (parts ++ plan first last range)) := by
  have hmax (range : UInt64) : max (max range 1) 1 = max range 1 := by
    rw [← UInt64.toNat_inj, Word.toNat_max, Nat.max_eq_left]
    exact UInt64.le_iff_toNat_le.1 (Word.one_le_max range)
  -- The loop carries the parts that it has cut, so they differ from pass to pass.
  fun_induction plan first last range generalizing parts with
  | case1 first range width hle stop hlt ih =>
    rw [hmax] at ih
    rw [List.length_cons, run_of_again (pass_of_lt parts hle (Word.one_le_max range) rfl hlt)]
    exact (ih _).trans (by rw [List.append_assoc, List.singleton_append])
  | case2 first range width hle stop hlt =>
    have hall : stop = last := UInt64.le_antisymm (Word.min_le_right _ _) (UInt64.not_lt.1 hlt)
    rw [hall]
    exact run_remainder parts hle (Word.one_le_max range) hall
  | case3 first range hle =>
    rw [List.append_nil]
    exact run_of_finished (pass_behind parts (UInt64.not_le.1 hle)) 0

end Progress

/-- The loop ends with the plan, which is the partition of the window. -/
theorem plan_partition (first last range : UInt64) :
    Progress.run last (max range 1) ((plan first last range).length + 1) ⟨first, []⟩
        = some (.finished (plan first last range)) ∧
      Partition first last (max range.toNat 1) (plan first last range) := by
  have hcut := cut_plan first last range
  refine ⟨Progress.run_plan first last range [], ?_⟩
  exact {
    eq_nil_iff := hcut.eq_nil_iff
    starts := hcut.head?_eq
    ends := hcut.getLast?_eq
    consecutive := hcut.isChain
    covers := hcut.countP_contains
    full := hcut.size_of_mem_dropLast
    tail := hcut.size_of_mem_getLast?
    count := hcut.length_eq (Nat.le_max_right _ _) }

-- There is no block behind the second part.
example : plan 0xfffffffffffffffd 0xffffffffffffffff 2
    = [⟨0xfffffffffffffffd, 0xfffffffffffffffe⟩, ⟨0xffffffffffffffff, 0xffffffffffffffff⟩] := by
  cbv

end BlockWindow
end StakingIndexer
