import Mathlib
import StakingIndexer.Proofs.Database.Failure
import StakingIndexer.Proofs.Store.CommitOnce

/-!
# All or nothing

A commit to the database that fails leaves every table as it was, whichever of its statements
failed. In a history of commits those that fail can be left out.
-/

namespace StakingIndexer

def Submission.succeeded (x : Submission) : Bool := x.outcome.isOk

namespace FaultyStore

variable {σ φ κ : Type} (g : FaultyStore σ φ κ)

/-- Moves without the commits that fail. -/
def succeeding : σ → List (StoreMove φ) → List (StoreMove φ)
  | _, [] => []
  | s, .commit c d :: rest =>
    if (g.commit c d s).1.isOk then .commit c d :: succeeding (g.commit c d s).2 rest
    else succeeding (g.commit c d s).2 rest
  | s, .fault f :: rest => .fault f :: succeeding (g.fault f s) rest

variable {g}

/-- If commits that fail change nothing, leaving them out changes neither what the others come to
nor where they lead. -/
theorem run_succeeding (h : ∀ c d s, ¬ (g.commit c d s).1.isOk → (g.commit c d s).2 = s) (s : σ)
    (moves : List (StoreMove φ)) :
    g.run s (g.succeeding s moves) = g.run s moves ∧
      g.submissions s (g.succeeding s moves)
        = (g.submissions s moves).filter Submission.succeeded := by
  induction moves generalizing s with
  | nil => exact ⟨rfl, rfl⟩
  | cons m moves ih =>
    cases m with
    | fault f => exact ih (g.fault f s)
    | commit c d =>
      obtain ⟨hrun, hsubmissions⟩ := ih (g.commit c d s).2
      unfold succeeding
      split_ifs with hok
      · refine ⟨hrun, ?_⟩
        have hsucceeded : Submission.succeeded ⟨c, d, (g.commit c d s).1⟩ = true := hok
        rw [submissions, submissions, List.filter_cons_of_pos hsucceeded, hsubmissions]
      · have hfailed : ¬ Submission.succeeded ⟨c, d, (g.commit c d s).1⟩ = true := hok
        rw [submissions, List.filter_cons_of_neg hfailed]
        rw [h c d s hok] at hrun hsubmissions ⊢
        refine ⟨hrun.trans ?_, hsubmissions⟩
        change g.run s moves = g.run (g.commit c d s).2 moves
        rw [h c d s hok]

end FaultyStore

namespace Database

/-- Whether a database can carry out a commit. What a commit writes is only looked at if its
cursor moves. -/
@[mk_iff] structure CanCommit (db : Database) (c : ScanCursor) (d : AggregateDelta) : Prop where
  reachable : db.reachable = true
  words : d.WordsFit
  block : Word.Fits c.block
  accepts : db.tables.behind c → db.tables.Accepts d

instance (db : Database) (c : ScanCursor) (d : AggregateDelta) : Decidable (db.CanCommit c d) :=
  decidable_of_iff _ (canCommit_iff db c d).symm

variable {db : Database} {c : ScanCursor} {d : AggregateDelta}

theorem isOk_mapError {α ε ε' : Type} (f : ε → ε') (r : Except ε α) :
    (r.mapError f).isOk = r.isOk := by cases r <;> rfl

theorem accepts_writeCursor (t : Tables) (c : ScanCursor) (d : AggregateDelta) :
    (t.writeCursor c).Accepts d ↔ t.Accepts d := by
  rw [Tables.accepts_iff, Tables.accepts_iff]
  rfl

theorem isOk_transaction (c : ScanCursor) (d : AggregateDelta) (columns : AggregateColumns)
    (t : Tables) : (Tables.commit c d columns t).1.isOk = true
      ↔ Word.Fits c.block ∧ (t.behind c → t.Accepts d) := by
  by_cases hfits : Word.Fits c.block
  · have hwrite := (Tables.decides_writeDelta d columns (t.writeCursor c)).isOk_iff
    rw [accepts_writeCursor] at hwrite
    rw [Tables.commit_eq hfits]
    split_ifs with hbehind
    · generalize Tables.writeDelta d columns (t.writeCursor c) = r at hwrite ⊢
      obtain ⟨e | _, written⟩ := r
      · exact ⟨nofun, fun h => nomatch hwrite.2 (h.2 hbehind)⟩
      · exact ⟨fun _ => ⟨hfits, fun _ => hwrite.1 rfl⟩, fun _ => rfl⟩
    · exact ⟨fun _ => ⟨hfits, fun h => absurd h hbehind⟩, fun _ => rfl⟩
  · obtain ⟨e, he⟩ := Tables.advanceCursor_error hfits t
    have hfailed : Tables.commit c d columns t = (.error e, t) := by
      unfold Tables.commit Tables.transaction
      rw [Action.bind_eq, he]
    rw [hfailed]
    exact ⟨nofun, fun h => absurd h.1 hfits⟩

theorem isOk_commit : (store.commit c d db).1.isOk = true ↔ db.CanCommit c d := by
  rw [canCommit_iff, ← AggregateColumns.isOk_ofDelta]
  change ((commit c d db).1.mapError StoreError.database).isOk = true ↔ _
  rw [isOk_mapError, commit]
  cases AggregateColumns.ofDelta d with
  | error e => exact ⟨nofun, fun h => nomatch h.2.1⟩
  | ok columns =>
    unfold connected
    dsimp only
    split_ifs with hreachable
    · exact (isOk_transaction c d columns db.tables).trans
        ⟨fun h => ⟨hreachable, rfl, h⟩, fun h => h.2.2⟩
    · exact ⟨nofun, fun h => absurd h.1 hreachable⟩

/-- A commit that fails leaves the database as it was. -/
theorem commit_of_not_isOk (h : ¬ (store.commit c d db).1.isOk) :
    (store.commit c d db).2 = db := by
  obtain ⟨e, he⟩ | ⟨columns, hcommit⟩ := commit_eq c d db
  · rw [he]
  · rw [hcommit] at h ⊢
    rw [isOk_mapError] at h
    obtain ⟨e, ht⟩ | ⟨-, -, ht⟩ | ⟨-, -, t', ht, -⟩ :=
      Tables.commit_cases c d columns db.tables
    · rw [ht]
    · rw [ht] at h
      exact absurd rfl h
    · rw [ht] at h
      exact absurd rfl h

theorem commit_of_behind (h : db.CanCommit c d) (hbehind : db.tables.behind c) :
    (store.commit c d db).1 = .ok .applied := by
  have hok := isOk_commit.2 h
  obtain ⟨e, he⟩ | ⟨columns, hcommit⟩ := commit_eq c d db
  · rw [he] at hok
    cases hok
  · rw [hcommit] at hok ⊢
    rw [isOk_mapError] at hok
    obtain ⟨e, ht⟩ | ⟨-, hnot, -⟩ | ⟨-, -, t', ht, -⟩ :=
      Tables.commit_cases c d columns db.tables
    · rw [ht] at hok
      cases hok
    · exact absurd hbehind hnot
    · rw [ht]
      rfl

/-- Whatever the tables hold: a commit fails if and only if there is no connection, a word of it
is not a signed word, or its cursor moves and the columns cannot hold its change. Then every table
is as it was, and the same cursor can be moved by a later commit. In a history, the commits that
fail are as if they had not been sent. -/
theorem commit_all_or_nothing (db : Database) (c : ScanCursor) (d : AggregateDelta) :
    ((∃ e, (store.commit c d db).1 = .error e) ↔ ¬ db.CanCommit c d) ∧
      (∀ e, (store.commit c d db).1 = .error e →
        (store.commit c d db).2 = db ∧
          (db.tables.behind c → ∀ now d',
            CanCommit { (store.commit c d db).2 with reachable := true }
                { c with advancedAt := now } d' →
              (store.commit { c with advancedAt := now } d'
                { (store.commit c d db).2 with reachable := true }).1 = .ok .applied)) ∧
      ∀ moves : List (StoreMove Bool),
        faulty.run db (.commit c d :: moves)
            = faulty.run db (faulty.succeeding db (.commit c d :: moves)) ∧
          (faulty.submissions db (.commit c d :: moves)).filter Submission.succeeded
            = faulty.submissions db (faulty.succeeding db (.commit c d :: moves)) := by
  have hfails : (∃ e, (store.commit c d db).1 = .error e) ↔ ¬ (store.commit c d db).1.isOk := by
    cases (store.commit c d db).1 with
    | error e => exact ⟨fun _ => nofun, fun _ => ⟨e, rfl⟩⟩
    | ok outcome => exact ⟨fun h => (nomatch h), fun h => absurd rfl h⟩
  refine ⟨hfails.trans (not_congr isOk_commit), fun e he => ?_, fun moves => ?_⟩
  · have hkept := commit_of_not_isOk (hfails.1 ⟨e, he⟩)
    rw [hkept]
    exact ⟨rfl, fun hbehind now d' hcan => commit_of_behind hcan hbehind⟩
  · obtain ⟨hrun, hsubmissions⟩ := FaultyStore.run_succeeding (g := faulty)
      (fun _ _ _ => commit_of_not_isOk) db (.commit c d :: moves)
    exact ⟨hrun.symm, hsubmissions.symm⟩

theorem with_reachable (h : db.reachable = true) : { db with reachable := true } = db := by
  rw [← h]

/-- A change for every table, which replaces the validators by some records of one ledger. -/
def everyTable (records : Nat) : AggregateDelta where
  chain := .relayChain
  counters := { deposited := .max, depositedCount := 2 ^ 61 }
  scalars := { eraId := some 9, totalSupply := some .max }
  holderBalances := .ofList [(.zero, .ofUInt64 5)]
  rewardRows := [⟨.zero, .zero, .ofUInt64 9, 7⟩]
  ledgers := [default]
  relayLedgers := [default]
  validatorsInfo := some (.replicate records ⟨.zero, "stash", .ofUInt64 9, ["v"]⟩)

def written : Database where
  tables := (store.commit ⟨.relayChain, .relayState, 5, 100⟩ (everyTable 1) (empty true)).2.tables
  prices := []
  reachable := true

/-- The last statement finds two records of one ledger, after the cursor was moved and all other
tables were written. The cursor is moved later by the change with one record. -/
theorem commit_all_or_nothing_repeatedLedger :
    (∃ e, (store.commit ⟨.relayChain, .relayState, 6, 200⟩ (everyTable 2) written).1 = .error e) ∧
      (store.commit ⟨.relayChain, .relayState, 6, 200⟩ (everyTable 2) written).2 = written ∧
      (store.commit ⟨.relayChain, .relayState, 6, 300⟩ (everyTable 1) written).1
        = .ok .applied := by
  obtain ⟨hfails, hkept, -⟩ := commit_all_or_nothing written ⟨.relayChain, .relayState, 6, 200⟩
    (everyTable 2)
  obtain ⟨e, he⟩ := hfails.2 (by decide +kernel)
  obtain ⟨hsame, hlater⟩ := hkept e he
  rw [hsame, with_reachable rfl] at hlater
  have hcan : CanCommit written ⟨.relayChain, .relayState, 6, 300⟩ (everyTable 1) := by
    decide +kernel
  exact ⟨⟨e, he⟩, hsame, hlater (by decide +kernel) 300 (everyTable 1) hcan⟩

end Database
end StakingIndexer
