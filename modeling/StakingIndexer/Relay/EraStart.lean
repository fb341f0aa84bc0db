import StakingIndexer.Store.Basic

/-!
# The first block of an era

Eras only grow with the blocks, so that the first block of an era is found by halving a
range of blocks.
-/

namespace StakingIndexer
namespace Relay

variable {σ ε : Type}

theorem toNat_midpoint {low high : UInt64} (h : low < high) :
    (low + (high - low) / 2).toNat = low.toNat + (high.toNat - low.toNat) / 2 := by
  have hh := high.toNat_lt
  rw [UInt64.lt_iff_toNat_lt] at h
  have hsub : (high - low).toNat = high.toNat - low.toNat :=
    UInt64.toNat_sub_of_le _ _ (by rw [UInt64.le_iff_toNat_le]; omega)
  have hdiv : ((high - low) / 2).toNat = (high.toNat - low.toNat) / 2 := by
    rw [UInt64.toNat_div, hsub]; rfl
  rw [UInt64.toNat_add, hdiv, Nat.mod_eq_of_lt (by omega)]

theorem toNat_midpoint_succ {low high : UInt64} (h : low < high) :
    (low + (high - low) / 2 + 1).toNat = low.toNat + (high.toNat - low.toNat) / 2 + 1 := by
  have hh := high.toNat_lt
  have hm := toNat_midpoint h
  rw [UInt64.lt_iff_toNat_lt] at h
  rw [UInt64.toNat_add, hm]
  exact Nat.mod_eq_of_lt (by simp only [UInt64.reduceToNat]; omega)

/-- The first block from `low` on, below `high`, whose era is at least the given one, or
`high` if there is none. -/
def findEraStart (eraAt : UInt64 → Action σ ε UInt32) (era : UInt32) (low high : UInt64) :
    Action σ ε UInt64 :=
  if h : low < high then do
    let middle := low + (high - low) / 2
    if era ≤ (← eraAt middle) then findEraStart eraAt era low middle
    else findEraStart eraAt era (middle + 1) high
  else pure low
termination_by high.toNat - low.toNat
decreasing_by
  · have := toNat_midpoint h
    rw [UInt64.lt_iff_toNat_lt] at h
    omega
  · have := toNat_midpoint_succ h
    rw [UInt64.lt_iff_toNat_lt] at h
    omega

end Relay
end StakingIndexer
