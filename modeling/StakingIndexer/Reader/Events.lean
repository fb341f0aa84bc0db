import StakingIndexer.Event
import StakingIndexer.Reader.Basic

/-!
# Reading events in windows

A window is split into consecutive windows of bounded size, which are read in turn; the
events of all of them are then sorted by place. The first window that cannot be read
fails the whole.
-/

namespace StakingIndexer
namespace BlockWindow

theorem first_lt_next {first last range : UInt64} (h : first ≤ last)
    (hs : min (Word.satAdd first (range - 1)) last < last) :
    last.toNat - (min (Word.satAdd first (range - 1)) last + 1).toNat
      < last.toNat - first.toNat := by
  have hsat := Word.toNat_satAdd first (range - 1)
  simp only [UInt64.size] at hsat
  have hf := first.toNat_lt
  have hl := last.toNat_lt
  have hmin : (min (Word.satAdd first (range - 1)) last).toNat
      = min (Word.satAdd first (range - 1)).toNat last.toNat := by
    simp only [UInt64.le_iff_toNat_le, Min.min]
    split <;> rfl
  rw [UInt64.lt_iff_toNat_lt] at hs
  rw [UInt64.le_iff_toNat_le] at h
  have hone : (min (Word.satAdd first (range - 1)) last + 1).toNat
      = (min (Word.satAdd first (range - 1)) last).toNat + 1 := by
    rw [UInt64.toNat_add]
    exact Nat.mod_eq_of_lt (by simp only [UInt64.reduceToNat]; omega)
  omega

/-- Consecutive windows of `range` blocks from `first` to `last`, the last one possibly
shorter. A range of zero counts as one. -/
def plan (first last range : UInt64) : List BlockWindow :=
  let range := max range 1
  if h : first ≤ last then
    let stop := min (Word.satAdd first (range - 1)) last
    if hs : stop < last then ⟨first, stop⟩ :: plan (stop + 1) last range
    else [⟨first, stop⟩]
  else []
termination_by last.toNat - first.toNat
decreasing_by exact first_lt_next h hs

end BlockWindow

namespace Link

variable {σ : Type}

/-- How the events of a window are asked for at one endpoint. -/
abbrev LogCall (σ : Type) := BlockWindow → Endpoint → Action σ Interruption (List Event)

/-- Read windows in turn, gathering their events. -/
def gather (l : Link σ) (logs : LogCall σ) : List BlockWindow → Action σ ReadError (List Event)
  | [] => pure []
  | w :: rest => do
    let batch ← l.run "logs_in_range" (logs w)
    let others ← gather l logs rest
    return batch ++ others

/-- The events of a window by ascending place. -/
def fetchEvents (l : Link σ) (logs : LogCall σ) (w : BlockWindow) :
    Action σ ReadError (List Event) := fun s =>
  let range := (l.reader s).config.maxRange
  (Event.sortByKey <$> l.gather logs (BlockWindow.plan w.first w.last range)) s

end Link
end StakingIndexer
