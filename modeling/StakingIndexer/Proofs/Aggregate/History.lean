import Mathlib
import StakingIndexer.Proofs.Aggregate.Replay
import StakingIndexer.Proofs.StableSort
import StakingIndexer.Store.Memory

/-!
# Histories of reports

A scanner keeps the last reports of each ledger in a queue, oldest first. A store answers with
the same reports newest first, and sorting them by block brings the oldest block to the front.
Sorting is stable, so the reports of one block stay in the order of the answer: they come out
newest first. The queue is restored if and only if this makes no difference.
-/

namespace StakingIndexer

namespace AggregateState

variable {α : Type}

theorem keepLast_eq (limit : Nat) (l : List α) :
    keepLast limit l = (l.reverse.take limit).reverse := by
  rw [keepLast, List.take_reverse, List.reverse_reverse]

/-- Elements that a full queue has dropped would not be kept later either. -/
theorem keepLast_append (limit : Nat) (l m : List α) :
    keepLast limit (keepLast limit l ++ m) = keepLast limit (l ++ m) := by
  simp only [keepLast_eq, List.reverse_append, List.reverse_reverse, List.take_append,
    List.take_take]
  rw [Nat.min_eq_left (Nat.sub_le _ _)]

theorem foldl_keepLast (limit : Nat) (l : List α) :
    l.foldl (fun queue a => keepLast limit (queue ++ [a])) [] = keepLast limit l := by
  induction l using List.reverseRecOn with
  | nil => simp [keepLast]
  | append_singleton l a ih =>
    rw [List.foldl_append, ih]
    exact keepLast_append limit l [a]

theorem keepLast_eq_nil_iff {limit : Nat} (hlimit : 1 ≤ limit) {l : List α} :
    keepLast limit l = [] ↔ l = [] := by
  rw [keepLast, List.drop_eq_nil_iff]
  constructor
  · intro h
    exact List.eq_nil_of_length_eq_zero (by omega)
  · rintro rfl
    simp

theorem pairwise_keepLast {r : α → α → Prop} {l : List α} (h : l.Pairwise r) (limit : Nat) :
    (keepLast limit l).Pairwise r :=
  h.sublist (List.drop_sublist _ _)

/-- The queue of a ledger holds its last reports in the order in which they came. -/
theorem get?_foldl_pushRow (limit : Nat) (rows : List RewardRow) (ledger : Address) :
    (rows.foldl (pushRow limit) .empty).get? ledger
      = if rows.filter (·.ledger == ledger) = [] then none
        else some (keepLast limit (rows.filter (·.ledger == ledger))) := by
  have hfold := AddressMap.get?_foldl_update RewardRow.ledger []
    (fun queue row => keepLast limit (queue ++ [row])) rows .empty ledger
  rw [AddressMap.get?_empty, Option.getD_none, foldl_keepLast] at hfold
  exact hfold

theorem historyLe_iff {a b : RewardRow} :
    historyLe a b ↔ a.ledger < b.ledger ∨ a.ledger = b.ledger ∧ a.block ≤ b.block := by
  simp [historyLe]

theorem historyLe_trans (a b c : RewardRow) (hab : historyLe a b) (hbc : historyLe b c) :
    historyLe a c := by
  rw [historyLe_iff] at *
  rcases hab with hab | ⟨hab, hab'⟩ <;> rcases hbc with hbc | ⟨hbc, hbc'⟩
  · exact .inl (Nat.lt_trans hab hbc)
  · exact .inl (hbc ▸ hab)
  · exact .inl (hab ▸ hbc)
  · exact .inr ⟨hab.trans hbc, UInt64.le_trans hab' hbc'⟩

theorem historyLe_total (a b : RewardRow) : historyLe a b || historyLe b a := by
  rw [Bool.or_eq_true, historyLe_iff, historyLe_iff]
  by_cases hab : a.ledger < b.ledger
  · exact .inl (.inl hab)
  · by_cases hba : b.ledger < a.ledger
    · exact .inr (.inl hba)
    · have heq := Address.eq_of_not_lt hab hba
      rcases UInt64.le_total a.block b.block with h | h
      · exact .inl (.inr ⟨heq, h⟩)
      · exact .inr (.inr ⟨heq.symm, h⟩)

/-- Reports by ascending block, those of one block in the order given. -/
def byBlock (rows : List RewardRow) : List RewardRow := rows.mergeSort fun a b => a.block ≤ b.block

theorem pairwise_byBlock (rows : List RewardRow) :
    (byBlock rows).Pairwise fun a b => a.block ≤ b.block := by
  have h : (byBlock rows).Pairwise fun a b => decide (a.block ≤ b.block) := List.pairwise_mergeSort
    (fun a b c hab hbc => by simpa using UInt64.le_trans (by simpa using hab) (by simpa using hbc))
    (fun a b => by simpa using UInt64.le_total a.block b.block) rows
  exact h.imp fun hab => by simpa using hab

theorem filter_byBlock (rows : List RewardRow) (block : UInt64) :
    (byBlock rows).filter (·.block = block) = rows.filter (·.block = block) := by
  refine StableSort.filter_mergeSort_of_tied
    (fun a b c hab hbc => by simpa using UInt64.le_trans (by simpa using hab) (by simpa using hbc))
    (fun a b => by simpa using UInt64.le_total a.block b.block) (fun a b ha hb => ?_) rows
  simp only [decide_eq_true_eq] at ha hb ⊢
  rw [ha, hb]
  exact UInt64.le_refl _

theorem filter_mergeSort_historyLe (rows : List RewardRow) (ledger : Address) :
    (rows.mergeSort historyLe).filter (·.ledger == ledger)
      = byBlock (rows.filter (·.ledger == ledger)) := by
  refine StableSort.eq_of_filter_key RewardRow.block
    (fun j k => UInt64.le_antisymm) ?_ (pairwise_byBlock _) fun block => ?_
  · have hsorted := (List.pairwise_mergeSort historyLe_trans historyLe_total rows).filter
      (·.ledger == ledger)
    refine hsorted.imp_of_mem fun {a b} ha hb hab => ?_
    have hla := eq_of_beq (List.mem_filter.1 ha).2
    have hlb := eq_of_beq (List.mem_filter.1 hb).2
    rcases historyLe_iff.1 hab with h | h
    · rw [hla, hlb] at h
      exact absurd h (Address.lt_irrefl _)
    · exact h.2
  · rw [filter_byBlock, List.filter_filter, List.filter_filter]
    refine StableSort.filter_mergeSort_of_tied historyLe_trans historyLe_total
      (fun a b ha hb => ?_) rows
    simp only [Bool.and_eq_true, decide_eq_true_eq, beq_iff_eq] at ha hb
    rw [historyLe_iff]
    refine .inr ⟨ha.2.trans hb.2.symm, ?_⟩
    rw [ha.1, hb.1]
    exact UInt64.le_refl _

theorem get?_withHistory (s : AggregateState) (rows : List RewardRow) (ledger : Address) :
    (s.withHistory rows).recentRewards.get? ledger
      = if rows.filter (·.ledger == ledger) = [] then none
        else some (byBlock (rows.filter (·.ledger == ledger))) := by
  have hfold := AddressMap.get?_foldl_update RewardRow.ledger []
    (fun queue row => queue ++ [row]) (rows.mergeSort historyLe) .empty ledger
  have happend : ∀ l : List RewardRow, l.foldl (fun queue row => queue ++ [row]) [] = l := by
    intro l
    induction l using List.reverseRecOn with
    | nil => rfl
    | append_singleton l a ih => rw [List.foldl_append, ih]; rfl
  rw [AddressMap.get?_empty, Option.getD_none, happend, filter_mergeSort_historyLe] at hfold
  have hnil : byBlock (rows.filter (·.ledger == ledger)) = []
      ↔ rows.filter (·.ledger == ledger) = [] := by
    rw [← List.length_eq_zero_iff, byBlock, List.length_mergeSort, List.length_eq_zero_iff]
  simp only [hnil] at hfold
  exact hfold

/-- Reports by ascending block, those of one block newest first. -/
def mirrored (rows : List RewardRow) : List RewardRow := byBlock rows.reverse

theorem filter_mirrored (rows : List RewardRow) (block : UInt64) :
    (mirrored rows).filter (·.block = block) = (rows.filter (·.block = block)).reverse := by
  rw [mirrored, filter_byBlock, List.filter_reverse]

/-- Reports in order stay as they are if those of each block read the same from both ends. -/
theorem mirrored_eq_self_iff {rows : List RewardRow}
    (h : rows.Pairwise fun a b => a.block ≤ b.block) :
    mirrored rows = rows ↔
      ∀ block, (rows.filter (·.block = block)).reverse = rows.filter (·.block = block) := by
  constructor
  · intro heq block
    rw [← filter_mirrored, heq]
  · intro hblocks
    refine StableSort.eq_of_filter_key RewardRow.block (fun j k => UInt64.le_antisymm)
      (pairwise_byBlock _) h fun block => ?_
    rw [← hblocks block, ← filter_mirrored]

end AggregateState

namespace MemoryStore

open AggregateState

theorem mem_reportingLedgers {rows : List RewardRow} {ledger : Address} :
    ledger ∈ reportingLedgers rows ↔ rows.filter (·.ledger == ledger) ≠ [] := by
  have hget : ∀ m : AddressMap Unit,
      (rows.foldl (fun m row => m.insert row.ledger ()) m).get? ledger
        = if rows.filter (·.ledger == ledger) = [] then m.get? ledger else some () := by
    induction rows with
    | nil => simp
    | cons row rows ih =>
      intro m
      rw [List.foldl_cons, ih, AddressMap.get?_insert, List.filter_cons]
      by_cases hrow : row.ledger = ledger
      · simp [hrow]
      · have hrow' : ledger ≠ row.ledger := fun h => hrow h.symm
        simp [hrow, hrow']
  rw [reportingLedgers, AddressMap.mem_keys, hget, AddressMap.get?_empty]
  split_ifs with h <;> simp [h]

theorem mem_ledgerRewards {rows : List RewardRow} {ledger : Address} {row : RewardRow}
    (h : row ∈ ledgerRewards rows ledger) : row.ledger = ledger := by
  rw [ledgerRewards, List.mem_mergeSort, List.mem_filter] at h
  exact eq_of_beq h.2

theorem flatMap_ite_of_nodup {α β : Type} [DecidableEq α] {l : List α} (h : l.Nodup) (k : α)
    (x : List β) : l.flatMap (fun a => if a = k then x else []) = if k ∈ l then x else [] := by
  induction l with
  | nil => simp
  | cons a l ih =>
    obtain ⟨ha, hl⟩ := List.nodup_cons.1 h
    rw [List.flatMap_cons, ih hl]
    by_cases hak : a = k
    · subst hak
      simp [ha]
    · simp [hak, Ne.symm hak]

theorem filter_recentRewards (s : MemoryStore) (limit : Nat) (ledger : Address) :
    (s.recentRewards limit).filter (·.ledger == ledger)
      = (ledgerRewards s.rewards ledger).take limit := by
  have hledger : ∀ other, ((ledgerRewards s.rewards other).take limit).filter (·.ledger == ledger)
      = if other = ledger then (ledgerRewards s.rewards ledger).take limit else [] := by
    intro other
    split_ifs with h
    · subst h
      rw [List.filter_eq_self]
      intro row hrow
      exact beq_iff_eq.2 (mem_ledgerRewards (List.mem_of_mem_take hrow))
    · rw [List.filter_eq_nil_iff]
      intro row hrow hrl
      exact h ((mem_ledgerRewards (List.mem_of_mem_take hrow)).symm.trans (eq_of_beq hrl))
  rw [recentRewards, List.filter_flatMap]
  simp only [hledger]
  have hnodup : (reportingLedgers s.rewards).Nodup := AddressMap.nodup_keys _
  rw [flatMap_ite_of_nodup hnodup]
  split_ifs with h
  · rfl
  · have hnone : s.rewards.filter (·.ledger == ledger) = [] := by
      by_contra hne
      exact h (mem_reportingLedgers.2 hne)
    simp [ledgerRewards, List.filter_reverse, hnone]

theorem ledgerRewards_eq_reverse {rows : List RewardRow}
    (h : rows.Pairwise fun a b => a.block ≤ b.block) (ledger : Address) :
    ledgerRewards rows ledger = (rows.filter (·.ledger == ledger)).reverse := by
  rw [ledgerRewards, List.filter_reverse]
  refine List.mergeSort_of_pairwise (List.pairwise_reverse.2 ?_)
  exact (h.filter _).imp fun hab => by simpa using hab

end MemoryStore
end StakingIndexer
