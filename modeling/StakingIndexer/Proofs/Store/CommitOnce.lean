import Mathlib
import StakingIndexer.Proofs.Database.Cursors
import StakingIndexer.Proofs.Store.Memory

/-!
# Stores that commit once

The store in memory and the database pass the same gate. The database may not be reached, and a
value without a column or a statement that fails ends its transaction. None of this opens the
gate or leaves a part of a commit behind. A database is out of reach before a transaction or not at
all: that the reply to a commit is lost behind it is left out.
-/

namespace StakingIndexer

namespace Database

/-- The database, which can be reached at times. -/
def faulty : FaultyStore Database Bool Tables where
  commit := store.commit
  fault reachable d := { d with reachable }
  contents d := d.tables
  cursor := Tables.cursor

/-- A commit runs as one transaction unless it fails before. -/
theorem commit_eq (c : ScanCursor) (delta : AggregateDelta) (d : Database) :
    (∃ e, store.commit c delta d = (.error e, d)) ∨
      ∃ columns, store.commit c delta d
        = ((Tables.commit c delta columns d.tables).1.mapError .database,
          { d with tables := (Tables.commit c delta columns d.tables).2 }) := by
  change (∃ e, (commit c delta).mapError StoreError.database d = _) ∨
    ∃ columns, (commit c delta).mapError StoreError.database d = _
  unfold Action.mapError commit
  cases AggregateColumns.ofDelta delta with
  | error e => exact .inl ⟨_, rfl⟩
  | ok columns =>
    unfold connected
    dsimp only
    split_ifs
    · exact .inr ⟨columns, rfl⟩
    · exact .inl ⟨_, rfl⟩

theorem commit_effect (c : ScanCursor) (delta : AggregateDelta) (d : Database)
    (h : d.tables.CursorsStored) :
    (store.commit c delta d).2.tables.CursorsStored ∧
      faulty.CommitEffect d.tables c (store.commit c delta d).1
        (store.commit c delta d).2.tables := by
  obtain ⟨e, he⟩ | ⟨columns, hcommit⟩ := commit_eq c delta d
  · rw [he]
    exact ⟨h, .failed e⟩
  · rw [hcommit]
    dsimp only
    obtain ⟨e, he⟩ | ⟨hfits, hbehind, ht⟩ | ⟨hfits, hbehind, t', ht, hcursors⟩ :=
      Tables.commit_cases c delta columns d.tables
    · rw [he]
      exact ⟨h, .failed _⟩
    · rw [ht]
      exact ⟨h, .refused (mt (h.behind_iff hfits).2 hbehind)⟩
    · rw [ht]
      obtain ⟨hwritten, hmoved⟩ := h.writeCursor hfits
      obtain ⟨hstored, hsame⟩ := hwritten.of_cursors hcursors
      refine ⟨hstored, .applied ((h.behind_iff hfits).1 hbehind) fun chain target => ?_⟩
      exact (hsame chain target).trans (hmoved chain target)

theorem gated_faulty : faulty.Gated Tables.CursorsStored where
  fault _ _ := rfl
  keeps c delta d h := (commit_effect c delta d h).1
  commit c delta d h := (commit_effect c delta d h).2

theorem cursorsStored_empty : Tables.empty.CursorsStored where
  rows := .nil _
  keyed _ _ _ h := by cases h

theorem commitsOnce_faulty (reachable : Bool) : faulty.CommitsOnce (.empty reachable) :=
  gated_faulty.commitsOnce cursorsStored_empty fun _ _ => rfl

theorem loadCursor_run (reachable : Bool) (moves : List (StoreMove Bool)) (chain : Chain)
    (target : TargetId) :
    Tables.loadCursor chain target (faulty.run (.empty reachable) moves).tables
      = (.ok ((faulty.run (.empty reachable) moves).tables.cursor chain target),
        (faulty.run (.empty reachable) moves).tables) :=
  (gated_faulty.run_keeps (s := .empty reachable) cursorsStored_empty moves).loadCursor_eq chain
    target

end Database

/-- Both stores commit once, the database reads the cursors that it has stored, and in memory
the state of a chain is what the changes that were applied lead to. -/
theorem commitsOnce_memory_database :
    MemoryStore.faulty.CommitsOnce .empty ∧
      (∀ reachable, Database.faulty.CommitsOnce (.empty reachable)) ∧
      (∀ reachable moves chain target,
        (Tables.loadCursor chain target (Database.faulty.run (.empty reachable) moves).tables).1
          = .ok ((Database.faulty.run (.empty reachable) moves).tables.cursor chain target)) ∧
      ∀ moves chain, (MemoryStore.faulty.run .empty moves).aggregates.get chain
        = MemoryStore.foldDeltas chain
          ((MemoryStore.faulty.applied .empty moves).map (·.delta)) := by
  refine ⟨MemoryStore.commitsOnce_faulty, Database.commitsOnce_faulty, ?_,
    MemoryStore.aggregates_run⟩
  intro reachable moves chain target
  rw [Database.loadCursor_run]

end StakingIndexer
