import Mathlib
import StakingIndexer.Metrics
import StakingIndexer.Proofs.Store.Refinement

/-!
# Averages over ledgers

Sums of floats depend on the order of their terms. An average of returns adds up the returns of
each ledger in the order of its own reports, and then the means of the ledgers in the order of
their addresses. So it is the same float for all lists in which the qualifying reports of every
single ledger come in the same order, wherever those of the other ledgers stand.
-/

namespace StakingIndexer
namespace Metrics

/-- The reports whose return lies within the bounds. -/
def qualifying (erasPerDay : UInt64) (aprMin aprMax : Float) (rows : List RewardRow) :
    List RewardRow :=
  rows.filter fun row => aprMin ≤ eraApr row erasPerDay && eraApr row erasPerDay ≤ aprMax

/-- The sum and the number of a ledger's returns, with those of one report more. -/
def addReturn (erasPerDay : UInt64) (returns : Float × UInt64) (row : RewardRow) :
    Float × UInt64 :=
  (returns.1 + eraApr row erasPerDay, returns.2 + 1)

variable {erasPerDay : UInt64} {aprMin aprMax : Float} {rows rows' : List RewardRow}

/-- What is counted of a ledger are its own qualifying reports, in their order. -/
theorem get?_foldl_tally (ledger : Address) :
    (rows.foldl (tally erasPerDay aprMin aprMax) .empty).get? ledger
      = if (qualifying erasPerDay aprMin aprMax rows).filter (·.ledger == ledger) = [] then none
        else some (((qualifying erasPerDay aprMin aprMax rows).filter (·.ledger == ledger)).foldl
          (addReturn erasPerDay) (0.0, 0)) := by
  -- Reports that do not qualify leave the map as it is, so they can be dropped before.
  have hcounted : rows.foldl (tally erasPerDay aprMin aprMax) .empty
      = (qualifying erasPerDay aprMin aprMax rows).foldl (fun returns row =>
          returns.update row.ledger (0.0, 0) (addReturn erasPerDay · row)) .empty := by
    rw [qualifying, List.foldl_filter]
    rfl
  rw [hcounted, AddressMap.get?_foldl_update, AddressMap.get?_empty, Option.getD_none]

/-- Maps are determined by their lookups, so nothing else enters the returns of all ledgers. -/
theorem foldl_tally_eq
    (h : ∀ ledger, (qualifying erasPerDay aprMin aprMax rows).filter (·.ledger == ledger)
      = (qualifying erasPerDay aprMin aprMax rows').filter (·.ledger == ledger)) :
    rows.foldl (tally erasPerDay aprMin aprMax) .empty
      = rows'.foldl (tally erasPerDay aprMin aprMax) .empty := by
  apply AddressMap.ext_get?
  intro ledger
  rw [get?_foldl_tally, get?_foldl_tally, h]

theorem averageApr_eq
    (h : ∀ ledger, (qualifying erasPerDay aprMin aprMax rows).filter (·.ledger == ledger)
      = (qualifying erasPerDay aprMin aprMax rows').filter (·.ledger == ledger))
    (previous : Float) :
    averageApr previous rows erasPerDay aprMin aprMax
      = averageApr previous rows' erasPerDay aprMin aprMax := by
  unfold averageApr
  rw [foldl_tally_eq h]

theorem averageApr_of_none_qualifying (h : qualifying erasPerDay aprMin aprMax rows = [])
    (previous : Float) : averageApr previous rows erasPerDay aprMin aprMax = previous := by
  have hnone : ∀ ledger, (qualifying erasPerDay aprMin aprMax rows).filter (·.ledger == ledger)
      = (qualifying erasPerDay aprMin aprMax []).filter (·.ledger == ledger) := by
    intro ledger
    rw [h]
    rfl
  rw [averageApr_eq hnone]
  rfl

theorem averageApr_of_qualifying (h : qualifying erasPerDay aprMin aprMax rows ≠ [])
    (previous previous' : Float) :
    averageApr previous rows erasPerDay aprMin aprMax
      = averageApr previous' rows erasPerDay aprMin aprMax := by
  obtain ⟨row, hrow⟩ := List.exists_mem_of_ne_nil _ h
  have hcounted : (rows.foldl (tally erasPerDay aprMin aprMax) .empty).get? row.ledger ≠ none := by
    have hown :
        (qualifying erasPerDay aprMin aprMax rows).filter (·.ledger == row.ledger) ≠ [] := by
      apply List.ne_nil_of_mem
      exact List.mem_filter.2 ⟨hrow, beq_self_eq_true row.ledger⟩
    rw [get?_foldl_tally, if_neg hown]
    exact Option.some_ne_none _
  have hfilled : (rows.foldl (tally erasPerDay aprMin aprMax) .empty).isEmpty = false := by
    rw [← AddressMap.mem_keys, AddressMap.keys] at hcounted
    obtain ⟨e, he, -⟩ := List.mem_map.1 hcounted
    rw [AddressMap.isEmpty, List.isEmpty_eq_false_iff]
    exact List.ne_nil_of_mem he
  simp only [averageApr, hfilled, Bool.false_eq_true, if_false]

theorem filter_qualifying_eq {ledger : Address}
    (h : rows.filter (·.ledger == ledger) = rows'.filter (·.ledger == ledger)) :
    (qualifying erasPerDay aprMin aprMax rows).filter (·.ledger == ledger)
      = (qualifying erasPerDay aprMin aprMax rows').filter (·.ledger == ledger) := by
  unfold qualifying
  rw [List.filter_comm, h, List.filter_comm]

theorem exists_recentRewards {db : Database} {s : MemoryStore} (h : db.Stores s) {limit : Nat}
    (hlimit : limit ≤ Int64.maxValue.toInt) :
    ∃ answer, Database.store.recentRewards limit db = (.ok answer, db) ∧ ∀ ledger,
      answer.filter (·.ledger == ledger) = (s.recentRewards limit).filter (·.ledger == ledger) := by
  obtain ⟨answer, hanswer, hledger⟩ := h.contents.recentReports hlimit
  refine ⟨answer, ?_, ?_⟩
  · change (Database.connected (Tables.recentReports limit)).mapError StoreError.database db = _
    rw [Action.mapError, h.connected_eq, hanswer]
    rfl
  · intro ledger
    rw [hledger, s.filter_recentRewards]
    rfl

/-- The average depends on each ledger's own qualifying reports alone, and on the previous value
only where there are none. Therefore a database and a store in memory with the same contents give
the same returns of a month and of a week. -/
theorem averageApr_eq_of_sameByLedger (erasPerDay : UInt64) (aprMin aprMax : Float)
    (rows rows' : List RewardRow)
    (h : ∀ ledger, (qualifying erasPerDay aprMin aprMax rows).filter (·.ledger == ledger)
      = (qualifying erasPerDay aprMin aprMax rows').filter (·.ledger == ledger)) :
    (∀ previous, averageApr previous rows erasPerDay aprMin aprMax
      = averageApr previous rows' erasPerDay aprMin aprMax) ∧
    (qualifying erasPerDay aprMin aprMax rows = [] →
      ∀ previous, averageApr previous rows erasPerDay aprMin aprMax = previous) ∧
    (qualifying erasPerDay aprMin aprMax rows ≠ [] →
      ∀ previous previous', averageApr previous rows erasPerDay aprMin aprMax
        = averageApr previous' rows erasPerDay aprMin aprMax) ∧
    ∀ (db : Database) (s : MemoryStore) (c : ProtocolConstants), db.Stores s →
      (monthRowLimit c).toNat ≤ Int64.maxValue.toInt →
      (weekRowLimit c).toNat ≤ Int64.maxValue.toInt →
      ∃ month week, Database.store.recentRewards (monthRowLimit c).toNat db = (.ok month, db) ∧
        Database.store.recentRewards (weekRowLimit c).toNat db = (.ok week, db) ∧
        aprPerMonth month c = aprPerMonth (s.recentRewards (monthRowLimit c).toNat) c ∧
        aprPerWeek week c = aprPerWeek (s.recentRewards (weekRowLimit c).toNat) c := by
  refine ⟨averageApr_eq h, averageApr_of_none_qualifying, averageApr_of_qualifying, ?_⟩
  intro db s c hstores hmonth hweek
  obtain ⟨month, hmonthly, hsameMonth⟩ := exists_recentRewards hstores hmonth
  obtain ⟨week, hweekly, hsameWeek⟩ := exists_recentRewards hstores hweek
  refine ⟨month, week, hmonthly, hweekly, ?_, ?_⟩
  · unfold aprPerMonth
    rw [averageApr_eq fun ledger => filter_qualifying_eq (hsameMonth ledger)]
  · unfold aprPerWeek
    rw [averageApr_eq fun ledger => filter_qualifying_eq (hsameWeek ledger)]

def twoLedgers : List RewardRow :=
  [⟨.ofNat 0x1a, ⟨1, by decide, by decide⟩, .ofUInt64 10001, 7⟩,
    ⟨.ofNat 0x1a, ⟨3, by decide, by decide⟩, .ofUInt64 10003, 8⟩,
    ⟨.ofNat 0x1b, ⟨2, by decide, by decide⟩, .ofUInt64 10002, 7⟩]

/-- The same reports with the other ledger first, after one whose return is too great. -/
def twoLedgersMixed : List RewardRow :=
  [⟨.ofNat 0x1b, ⟨100, by decide, by decide⟩, .ofUInt64 10100, 6⟩,
    ⟨.ofNat 0x1b, ⟨2, by decide, by decide⟩, .ofUInt64 10002, 7⟩,
    ⟨.ofNat 0x1a, ⟨1, by decide, by decide⟩, .ofUInt64 10001, 7⟩,
    ⟨.ofNat 0x1a, ⟨3, by decide, by decide⟩, .ofUInt64 10003, 8⟩]

/-- A database puts the text of the second ledger first. -/
example : (Address.ofNat 0x1b).toChecksum < (Address.ofNat 0x1a).toChecksum := by decide +kernel

def twoLedgersCommits : List (ScanCursor × AggregateDelta) :=
  [(⟨.parachain, .events, 8, 100⟩, { chain := .parachain, rewardRows := twoLedgers })]

theorem sameByLedger_twoLedgers (ledger : Address) :
    (qualifying 4 3.0 45.0 twoLedgers).filter (·.ledger == ledger)
      = (qualifying 4 3.0 45.0 twoLedgersMixed).filter (·.ledger == ledger) := by
  have hall : qualifying 4 3.0 45.0 twoLedgers = twoLedgers := by decide +kernel
  have hmixed : qualifying 4 3.0 45.0 twoLedgersMixed = twoLedgersMixed.tail := by decide +kernel
  rw [hall, hmixed]
  by_cases hfirst : Address.ofNat 0x1a = ledger
  · subst hfirst
    decide
  · by_cases hsecond : Address.ofNat 0x1b = ledger
    · subst hsecond
      decide
    · simp [twoLedgers, twoLedgersMixed, hfirst, hsecond]

theorem averageApr_eq_of_sameByLedger_twoLedgers :
    (∀ ledger, (qualifying 4 3.0 45.0 twoLedgers).filter (·.ledger == ledger)
      = (qualifying 4 3.0 45.0 twoLedgersMixed).filter (·.ledger == ledger)) ∧
    averageApr 0.0 twoLedgers 4 3.0 45.0 = averageApr 0.0 twoLedgersMixed 4 3.0 45.0 ∧
    averageApr 0.0 twoLedgers 4 3.0 45.0 = averageApr 1.0 twoLedgers 4 3.0 45.0 ∧
    averageApr 1.0 [] 4 3.0 45.0 = 1.0 ∧
    ∃ month week,
      (Database.store.recentRewards 120
        (Database.faulty.run (.empty true) (twoLedgersCommits.map .ofPair))).1 = .ok month ∧
      (Database.store.recentRewards 28
        (Database.faulty.run (.empty true) (twoLedgersCommits.map .ofPair))).1 = .ok week ∧
      aprPerMonth month .standard = aprPerMonth (MemoryStore.recentRewards
        (MemoryStore.faulty.run .empty (twoLedgersCommits.map .ofPair)) 120) .standard ∧
      aprPerWeek week .standard = aprPerWeek (MemoryStore.recentRewards
        (MemoryStore.faulty.run .empty (twoLedgersCommits.map .ofPair)) 28) .standard := by
  have hqualify : qualifying 4 3.0 45.0 twoLedgers ≠ [] := by decide +kernel
  have hstorable : MemoryStore.Throughout MemoryStore.Storable .empty twoLedgersCommits := by
    decide +kernel
  have hbinds : MemoryStore.Throughout (fun s c d => s.isNew c → d.Bindable) .empty
      twoLedgersCommits := by
    decide +kernel
  have hplain : MemoryStore.Throughout (fun s c d => s.isNew c → d.Plain) .empty
      twoLedgersCommits := by
    decide +kernel
  obtain ⟨-, -, hstores⟩ := Database.stores_empty.run hstorable hbinds hplain
  obtain ⟨hsame, -, hindependent, hreads⟩ := averageApr_eq_of_sameByLedger 4 3.0 45.0 twoLedgers
    twoLedgersMixed sameByLedger_twoLedgers
  obtain ⟨month, week, hmonth, hweek, hmonthly, hweekly⟩ :=
    hreads _ _ .standard hstores (by decide) (by decide)
  have hnone := (averageApr_eq_of_sameByLedger 4 3.0 45.0 [] [] fun _ => rfl).2.1 rfl 1.0
  exact ⟨sameByLedger_twoLedgers, hsame 0.0, hindependent hqualify 0.0 1.0, hnone, month, week,
    congrArg Prod.fst hmonth, congrArg Prod.fst hweek, hmonthly, hweekly⟩

end Metrics
end StakingIndexer
