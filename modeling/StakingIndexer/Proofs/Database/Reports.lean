import Mathlib
import StakingIndexer.Proofs.Aggregate.History
import StakingIndexer.Proofs.Database.Reading

/-!
# Recent reports of a database

Reports are numbered as they are stored. Sorting them by block and number, newest first, is
therefore sorting them by block alone after they have been reversed, which is what the store in
memory does. What a query answers for one ledger is the same list in both stores, in whatever
order the ledgers come.
-/

namespace StakingIndexer
namespace Tables

open StakingIndexer.Action Column

/-- Whether a numbered report comes first where the newest report does. -/
def newer (a b : RewardRow × Nat) : Bool :=
  b.1.block < a.1.block || (a.1.block = b.1.block && b.2 ≤ a.2)

theorem newer_iff {a b : RewardRow × Nat} :
    newer a b ↔ b.1.block < a.1.block ∨ a.1.block = b.1.block ∧ b.2 ≤ a.2 := by
  simp [newer]

theorem newer_trans (a b c : RewardRow × Nat) (hab : newer a b) (hbc : newer b c) :
    newer a c := by
  rw [newer_iff] at *
  rcases hab with hab | ⟨hab, hab'⟩ <;> rcases hbc with hbc | ⟨hbc, hbc'⟩
  · exact .inl (UInt64.lt_trans hbc hab)
  · exact .inl (hbc ▸ hab)
  · exact .inl (hab ▸ hbc)
  · exact .inr ⟨hab.trans hbc, Nat.le_trans hbc' hab'⟩

theorem newer_total (a b : RewardRow × Nat) : newer a b || newer b a := by
  rw [Bool.or_eq_true, newer_iff, newer_iff]
  by_cases hab : a.1.block < b.1.block
  · exact .inr (.inl hab)
  · by_cases hba : b.1.block < a.1.block
    · exact .inl (.inl hba)
    · have heq := UInt64.le_antisymm (UInt64.not_lt.1 hba) (UInt64.not_lt.1 hab)
      rcases Nat.le_total a.2 b.2 with hn | hn
      · exact .inr (.inr ⟨heq.symm, hn⟩)
      · exact .inl (.inr ⟨heq, hn⟩)

theorem isNewer_write {a b : RewardRow × Nat} (ha : Word.Fits a.1.block)
    (hb : Word.Fits b.1.block) :
    isNewer (.write a.2 a.1) (.write b.2 b.1) = newer a b := by
  have hblock : a.1.block.toInt64 = b.1.block.toInt64 ↔ a.1.block = b.1.block := by
    constructor
    · intro h
      rw [← UInt64.toUInt64_toInt64 a.1.block, h, UInt64.toUInt64_toInt64]
    · exact congrArg _
  change (decide (b.1.block.toInt64 < a.1.block.toInt64) ||
    (decide (a.1.block.toInt64 = b.1.block.toInt64) && decide (b.2 ≤ a.2))) = _
  simp [newer, hblock, Word.toInt64_lt_iff hb ha]

/-- Reports in the order of their numbers are sorted by block and number, newest first, if they
are reversed and then sorted by block. -/
theorem mergeSort_newer {l : List (RewardRow × Nat)} (h : l.Pairwise fun a b => a.2 < b.2) :
    l.mergeSort newer = l.reverse.mergeSort fun a b => b.1.block ≤ a.1.block := by
  have htrans : ∀ a b c : RewardRow × Nat, decide (b.1.block ≤ a.1.block) →
      decide (c.1.block ≤ b.1.block) → decide (c.1.block ≤ a.1.block) := by
    intro a b c hab hbc
    simpa using UInt64.le_trans (of_decide_eq_true hbc) (of_decide_eq_true hab)
  have htotal : ∀ a b : RewardRow × Nat,
      decide (b.1.block ≤ a.1.block) || decide (a.1.block ≤ b.1.block) := by
    intro a b
    simpa using UInt64.le_total b.1.block a.1.block
  have hnewer := List.pairwise_mergeSort newer_trans newer_total l
  refine StableSort.eq_of_filter_key (·.1.block) (r := fun j k => k ≤ j)
    (fun j k hjk hkj => UInt64.le_antisymm hkj hjk) ?_ ?_ fun block => ?_
  · refine hnewer.imp fun hab => ?_
    rcases newer_iff.1 hab with hlt | ⟨heq, -⟩
    · exact UInt64.le_of_lt hlt
    · exact UInt64.le_of_eq heq.symm
  · exact (List.pairwise_mergeSort htrans htotal _).imp fun hab => of_decide_eq_true hab
  · -- within a block the numbers decide, and no two reports have the same number
    rw [StableSort.filter_mergeSort_of_tied htrans htotal (fun a b ha hb => by
      simp only [decide_eq_true_eq] at ha hb ⊢
      exact UInt64.le_of_eq (hb.trans ha.symm))]
    have hnumbers : (l.map (·.2)).Nodup := List.pairwise_map.2 (h.imp Nat.ne_of_lt)
    refine List.Perm.eq_of_pairwise (fun a b ha hb hab hba => ?_) (hnewer.filter _) ?_
      (((List.mergeSort_perm l newer).trans l.reverse_perm.symm).filter _)
    · have ha := (List.mergeSort_perm l newer).mem_iff.1 (List.mem_filter.1 ha).1
      have hb := List.mem_reverse.1 (List.mem_filter.1 hb).1
      refine List.inj_on_of_nodup_map hnumbers ha hb ?_
      rcases newer_iff.1 hab with hlt | ⟨heq, hle⟩
      · rcases newer_iff.1 hba with hlt' | ⟨heq', -⟩
        · exact absurd hlt' (UInt64.lt_asymm hlt)
        · exact absurd (heq' ▸ hlt) (UInt64.lt_irrefl _)
      · rcases newer_iff.1 hba with hlt' | ⟨-, hle'⟩
        · exact absurd (heq ▸ hlt') (UInt64.lt_irrefl _)
        · exact Nat.le_antisymm hle' hle
    · refine ((List.pairwise_reverse.2 h).filter _).imp_of_mem fun ha hb hab => ?_
      have ha := of_decide_eq_true (List.mem_filter.1 ha).2
      have hb := of_decide_eq_true (List.mem_filter.1 hb).2
      exact newer_iff.2 (.inr ⟨ha.trans hb.symm, Nat.le_of_lt hab⟩)

/-! ## Ledgers that have reported -/

theorem mem_reportingLedgers {rows : List ReportRow} {text : String} :
    text ∈ reportingLedgers rows ↔ ∃ r ∈ rows, r.ledger = text := by
  have hfold : ∀ seen : List String,
      text ∈ rows.foldl (fun seen r =>
        if seen.contains r.ledger then seen else seen ++ [r.ledger]) seen
        ↔ text ∈ seen ∨ ∃ r ∈ rows, r.ledger = text := by
    induction rows with
    | nil => simp
    | cons r rows ih =>
      intro seen
      rw [List.foldl_cons, ih]
      by_cases hseen : r.ledger ∈ seen
      · grind
      · grind
  rw [reportingLedgers, List.mem_mergeSort, hfold]
  simp

theorem nodup_reportingLedgers (rows : List ReportRow) : (reportingLedgers rows).Nodup := by
  have hfold : ∀ seen : List String, seen.Nodup →
      (rows.foldl (fun seen r =>
        if seen.contains r.ledger then seen else seen ++ [r.ledger]) seen).Nodup := by
    induction rows with
    | nil => exact fun _ h => h
    | cons r rows ih =>
      intro seen hseen
      refine ih _ ?_
      dsimp only
      split_ifs with hin
      · exact hseen
      · have hnot : r.ledger ∉ seen := by simpa using hin
        exact (List.nodup_append.2 ⟨hseen, by simp, by grind⟩)
  exact (List.mergeSort_perm _ _).nodup_iff.2 (hfold [] .nil)

/-! ## Answers -/

/-- The last numbered reports of a ledger, newest first. -/
def newest (limit : Nat) (rewards : List RewardRow) (text : String) : List (RewardRow × Nat) :=
  (((rewards.zipIdx 1).filter (·.1.ledger.toChecksum = text)).mergeSort newer).take limit

theorem mem_of_mem_newest {limit : Nat} {rewards : List RewardRow} {text : String}
    {e : RewardRow × Nat} (h : e ∈ newest limit rewards text) :
    e ∈ rewards.zipIdx 1 ∧ e.1.ledger.toChecksum = text := by
  have hmem := List.mem_of_mem_take h
  rw [List.mem_mergeSort, List.mem_filter] at hmem
  exact ⟨hmem.1, of_decide_eq_true hmem.2⟩

/-- The newest reports of a ledger are the ones that the store in memory finds. -/
theorem map_newest (limit : Nat) (rewards : List RewardRow) (ledger : Address) :
    (newest limit rewards ledger.toChecksum).map (·.1)
      = (MemoryStore.ledgerRewards rewards ledger).take limit := by
  have hnumbered : (rewards.zipIdx 1).Pairwise fun a b => a.2 < b.2 := by
    have hnumbers : ((rewards.zipIdx 1).map (·.2)).Pairwise (· < ·) := by
      rw [List.zipIdx_map_snd]
      exact List.pairwise_lt_range'
    exact List.pairwise_map.1 hnumbers
  have hrows : ((rewards.zipIdx 1).filter (·.1.ledger.toChecksum = ledger.toChecksum)).map (·.1)
      = rewards.filter (·.ledger == ledger) := by
    have hsame : (fun e : RewardRow × Nat =>
        decide (e.1.ledger.toChecksum = ledger.toChecksum)) = (·.ledger == ledger) ∘ (·.1) := by
      funext e
      rw [Bool.eq_iff_iff]
      simp [Address.toChecksum_inj]
    rw [hsame, ← List.filter_map, List.zipIdx_map_fst]
  rw [newest, mergeSort_newer (hnumbered.filter _), List.map_take, MemoryStore.ledgerRewards,
    List.filter_reverse, ← hrows, ← List.map_reverse]
  congr 1
  exact List.map_mergeSort fun _ _ _ _ => rfl

theorem filter_newest (limit : Nat) (rewards : List RewardRow) (text : String) (ledger : Address) :
    (newest limit rewards text).filter (·.1.ledger == ledger)
      = if text = ledger.toChecksum then newest limit rewards ledger.toChecksum else [] := by
  split_ifs with htext
  · subst htext
    refine List.filter_eq_self.2 fun e he => beq_iff_eq.2 ?_
    exact Address.toChecksum_inj.1 (mem_of_mem_newest he).2
  · refine List.filter_eq_nil_iff.2 fun e he hledger => htext ?_
    rw [← (mem_of_mem_newest he).2, eq_of_beq hledger]

namespace Holds

variable {t : Tables} {k : Contents} (h : t.Holds k)
include h

theorem fits_of_mem_zipIdx {e : RewardRow × Nat} (he : e ∈ k.rewards.zipIdx 1) :
    Word.Fits e.1.block := h.blocksFit e.1 (List.fst_mem_of_mem_zipIdx he)

theorem selected_eq (limit : Nat) (text : String) :
    ((t.reports.filter (·.ledger = text)).mergeSort isNewer).take limit
      = (newest limit k.rewards text).map fun e => ReportRow.write e.2 e.1 := by
  have hsort : ∀ a ∈ (k.rewards.zipIdx 1).filter (·.1.ledger.toChecksum = text),
      ∀ b ∈ (k.rewards.zipIdx 1).filter (·.1.ledger.toChecksum = text),
      newer a b = isNewer (.write a.2 a.1) (.write b.2 b.1) := by
    intro a ha b hb
    exact (isNewer_write (h.fits_of_mem_zipIdx (List.mem_filter.1 ha).1)
      (h.fits_of_mem_zipIdx (List.mem_filter.1 hb).1)).symm
  rw [newest, List.map_take, List.map_mergeSort hsort, h.reports, numbered, List.filter_map]
  rfl

/-- A query answers for each ledger what the store in memory finds. -/
theorem recentReports {limit : Nat} (hlimit : limit ≤ Int64.maxValue.toInt) :
    ∃ rows, recentReports limit t = (.ok rows, t) ∧ ∀ ledger,
      rows.filter (·.ledger == ledger)
        = (MemoryStore.ledgerRewards k.rewards ledger).take limit := by
  let texts := reportingLedgers t.reports
  let selected := texts.flatMap (newest limit k.rewards)
  have hfits : ∀ e ∈ selected, Word.Fits e.1.block := by
    intro e he
    obtain ⟨text, -, hmem⟩ := List.mem_flatMap.1 he
    exact h.fits_of_mem_zipIdx (mem_of_mem_newest hmem).1
  refine ⟨selected.map (·.1), ?_, fun ledger => ?_⟩
  · have hread := read_eq (fun r => [r.reward, r.balance]) ReportRow.toReward
      (fun e : RewardRow × Nat => ReportRow.write e.2 e.1) (·.1) (l := selected)
      (fun e _ => by simp [ReportRow.write])
      (fun e he => ReportRow.toReward_write (hfits e he) e.2) t
    rw [List.map_flatMap, ← funext (h.selected_eq limit)] at hread
    unfold Tables.recentReports
    rw [if_neg (by omega)]
    exact hread
  · have hown : selected.filter (·.1.ledger == ledger)
        = newest limit k.rewards ledger.toChecksum := by
      rw [List.filter_flatMap]
      simp only [filter_newest]
      rw [MemoryStore.flatMap_ite_of_nodup (nodup_reportingLedgers _)]
      split_ifs with hreported
      · rfl
      · -- without a report of the ledger there is nothing to sort
        have hnone : t.reports.filter (·.ledger = ledger.toChecksum) = [] :=
          List.filter_eq_nil_iff.2 fun r hr hledger =>
            hreported (mem_reportingLedgers.2 ⟨r, hr, of_decide_eq_true hledger⟩)
        have hrows := h.selected_eq limit ledger.toChecksum
        rw [hnone, List.mergeSort_nil, List.take_nil] at hrows
        exact (List.map_eq_nil_iff.1 hrows.symm).symm
    rw [List.filter_map, ← map_newest, ← hown]
    rfl

end Holds
end Tables
end StakingIndexer
