import Mathlib
import StakingIndexer.Proofs.Database.Totals
import StakingIndexer.Proofs.Store.Atomicity

/-!
# Sums beyond the greatest amount

In memory a counter stops at the greatest amount. In the database it does not, and a commit that
takes it further is applied as any other. The state of the chain cannot be read any more, until
the end of the history. Before that the counters that are read are those in memory.
-/

namespace StakingIndexer

namespace MemoryStore

theorem isSome_foldDeltas (chain : Chain) (deltas : List AggregateDelta) :
    (foldDeltas chain deltas).isSome ↔ ∃ d ∈ deltas, d.chain = chain := by
  induction deltas using List.reverseRecOn with
  | nil => simp [foldDeltas]
  | append_singleton deltas d ih =>
    rw [foldDeltas_append]
    split_ifs with hchain
    · exact ⟨fun _ => ⟨d, by simp, hchain⟩, fun _ => rfl⟩
    · rw [ih]
      simp [hchain]

/-- The counters of the state to which changes lead are the totals of the changes. -/
theorem counters_foldDeltas (chain : Chain) (deltas : List AggregateDelta) :
    ((foldDeltas chain deltas).getD (.empty chain)).counters
      = (RunningTotals.ofChain chain.name deltas).clamped := by
  induction deltas using List.reverseRecOn with
  | nil => rfl
  | append_singleton deltas d ih =>
    rw [foldDeltas_append, RunningTotals.ofChain_append]
    by_cases hchain : d.chain = chain
    · rw [if_pos hchain, if_pos (Chain.name_inj.2 hchain)]
      exact AggregateState.counters_applyDelta ih d
    · rw [if_neg hchain, if_neg (mt Chain.name_inj.1 hchain)]
      exact ih

end MemoryStore

namespace Database

variable {db : Database} {c : ScanCursor} {d : AggregateDelta}

theorem commit_of_canCommit (h : db.CanCommit c d) : store.commit c d db
    = ((Tables.commit c d (.write d) db.tables).1.mapError .database,
      { db with tables := (Tables.commit c d (.write d) db.tables).2 }) := by
  change (Database.commit c d).mapError StoreError.database db = _
  unfold Action.mapError Database.commit
  rw [AggregateColumns.ofDelta_of_fits h.words]
  unfold connected
  dsimp only
  rw [if_pos h.reachable]
  rfl

theorem tallies_commit {deltas : List AggregateDelta} {u : Tables} {k : Contents}
    (h : db.tables.Tallies deltas u k) (c : ScanCursor) (d : AggregateDelta) :
    ∃ u' k', (store.commit c d db).2.tables.Tallies
      (deltas ++ if (store.commit c d db).1 = .ok .applied then [d] else []) u' k' := by
  by_cases hok : (store.commit c d db).1.isOk
  · have hcan := isOk_commit.1 hok
    rw [commit_of_canCommit hcan, Tables.commit_eq hcan.block]
    by_cases hbehind : db.tables.behind c
    · have haccepts := (accepts_writeCursor db.tables c d).2 (hcan.accepts hbehind)
      obtain ⟨t', u', hwrite, ht⟩ := (h.writeCursor c).writeDelta hcan.words haccepts
      rw [if_pos hbehind, hwrite]
      exact ⟨u', _, ht⟩
    · rw [if_neg hbehind]
      exact ⟨u, k, (List.append_nil deltas).symm ▸ h⟩
  · have hfailed : (store.commit c d db).1 ≠ .ok .applied := fun heq => hok (by rw [heq]; rfl)
    rw [if_neg hfailed, List.append_nil, commit_of_not_isOk hok]
    exact ⟨u, k, h⟩

def appliedDeltas (reachable : Bool) (moves : List (StoreMove Bool)) : List AggregateDelta :=
  (faulty.applied (.empty reachable) moves).map (·.delta)

theorem appliedDeltas_commit (reachable : Bool) (moves : List (StoreMove Bool)) (c : ScanCursor)
    (d : AggregateDelta) : appliedDeltas reachable (moves ++ [.commit c d])
      = appliedDeltas reachable moves
        ++ if (store.commit c d (faulty.run (.empty reachable) moves)).1 = .ok .applied then [d]
          else [] := by
  rw [appliedDeltas, FaultyStore.applied_append, List.map_append, FaultyStore.applied_commit]
  change _ ++ List.map _ (ite ((store.commit c d _).1 = _) _ _) = _
  rw [apply_ite (List.map _)]
  rfl

theorem tallies_run (reachable : Bool) (moves : List (StoreMove Bool)) :
    ∃ u k, (faulty.run (.empty reachable) moves).tables.Tallies (appliedDeltas reachable moves)
      u k := by
  induction moves using List.reverseRecOn with
  | nil => exact ⟨_, _, Tables.tallies_empty⟩
  | append_singleton moves m ih =>
    obtain ⟨u, k, h⟩ := ih
    rw [FaultyStore.run_append]
    cases m with
    | fault f =>
      have hsame : appliedDeltas reachable (moves ++ [.fault f])
          = appliedDeltas reachable moves := by
        rw [appliedDeltas, FaultyStore.applied_append, List.map_append]
        exact List.append_nil _
      rw [hsame]
      exact ⟨u, k, h⟩
    | commit c d =>
      rw [appliedDeltas_commit]
      exact tallies_commit h c d

theorem appliedDeltas_append (reachable : Bool) (moves more : List (StoreMove Bool)) :
    ∃ later, appliedDeltas reachable (moves ++ more) = appliedDeltas reachable moves ++ later := by
  rw [appliedDeltas, FaultyStore.applied_append, List.map_append]
  exact ⟨_, rfl⟩

/-- Whatever history of commits and interruptions leads to it, the state of a chain is read from
the database if and only if no sum of its increments exceeds the greatest amount, and then its
counters are those of the state in memory. A state that is not read is not read later either. -/
theorem loadState_iff_totals_fit (reachable : Bool) (moves : List (StoreMove Bool))
    (chain : Chain) :
    ((∃ s, (Tables.loadState chain (faulty.run (.empty reachable) moves).tables).1 = .ok s) ↔
        (RunningTotals.ofChain chain.name (appliedDeltas reachable moves)).Fits) ∧
      (∀ s, (Tables.loadState chain (faulty.run (.empty reachable) moves).tables).1 = .ok s →
        s.map AggregateState.counters
          = (MemoryStore.foldDeltas chain (appliedDeltas reachable moves)).map
              AggregateState.counters) ∧
      ∀ more s,
        (Tables.loadState chain (faulty.run (.empty reachable) (moves ++ more)).tables).1 = .ok s →
          ∃ s', (Tables.loadState chain (faulty.run (.empty reachable) moves).tables).1
            = .ok s' := by
  obtain ⟨u, k, h⟩ := tallies_run reachable moves
  obtain ⟨hreads, hcounters⟩ := h.loadState chain
  refine ⟨hreads, fun s hs => (hcounters s hs).trans ?_, fun more s hs => hreads.2 ?_⟩
  · have hsome : (k.states chain).isSome
        = (MemoryStore.foldDeltas chain (appliedDeltas reachable moves)).isSome :=
      Bool.eq_iff_iff.2 ((h.written chain).trans (MemoryStore.isSome_foldDeltas chain _).symm)
    rw [← MemoryStore.counters_foldDeltas]
    cases hstate : k.states chain <;>
      cases hmemory : MemoryStore.foldDeltas chain (appliedDeltas reachable moves) <;>
      simp [hstate, hmemory] at hsome ⊢
  · obtain ⟨later, hlater⟩ := appliedDeltas_append reachable moves more
    obtain ⟨u', k', h'⟩ := tallies_run reachable (moves ++ more)
    have hfits := (h'.loadState chain).1.1 ⟨s, hs⟩
    rw [hlater] at hfits
    exact hfits.of_append

def greatestDeposit : StoreMove Bool :=
  .commit ⟨.parachain, .events, 1, 100⟩ { chain := .parachain, counters := { deposited := .max } }

def leastDeposit : StoreMove Bool :=
  .commit ⟨.parachain, .events, 2, 200⟩
    { chain := .parachain, counters := { deposited := .ofUInt64 1 } }

/-- The greatest deposit is sent in vain at first, and once more after it was applied. -/
theorem loadState_iff_totals_fit_resentDeposit :
    (∃ s, (Tables.loadState .parachain (faulty.run (.empty true)
        [.fault false, greatestDeposit, .fault true, greatestDeposit, greatestDeposit]).tables).1
          = .ok s ∧ s.map (·.counters.deposited) = some .max) ∧
      ¬ ∃ s, (Tables.loadState .parachain (faulty.run (.empty true)
        [.fault false, greatestDeposit, .fault true, greatestDeposit, greatestDeposit,
          leastDeposit]).tables).1 = .ok s := by
  obtain ⟨hreads, hcounters, -⟩ := loadState_iff_totals_fit true
    [.fault false, greatestDeposit, .fault true, greatestDeposit, greatestDeposit] .parachain
  obtain ⟨hreads', -, -⟩ := loadState_iff_totals_fit true
    [.fault false, greatestDeposit, .fault true, greatestDeposit, greatestDeposit, leastDeposit]
    .parachain
  obtain ⟨s, hs⟩ := hreads.2 (by decide +kernel)
  refine ⟨⟨s, hs, ?_⟩, mt hreads'.1 (by decide +kernel)⟩
  have hdeposited := congrArg (Option.map Counters.deposited) (hcounters s hs)
  rw [Option.map_map] at hdeposited
  exact hdeposited.trans (by decide +kernel)

/-- Both deposits are applied, and then the state is not read. In memory the counter stops. -/
theorem greatestDeposit_leastDeposit_unreadable :
    (faulty.submissions (.empty true) [greatestDeposit, leastDeposit]).map (·.outcome)
        = [.ok .applied, .ok .applied] ∧
      (Tables.loadState .parachain
          (faulty.run (.empty true) [greatestDeposit, leastDeposit]).tables).1
        = .error (.conversion ("115792089237316195423570985008687907853269984665640564039457584"
          ++ "007913129639936 is not a u256: the value is too large to fit the target type")) ∧
      (MemoryStore.foldDeltas .parachain (appliedDeltas true [greatestDeposit, leastDeposit])).map
          (·.deposited) = some .max := by
  refine ⟨by decide +kernel, ?_, by decide +kernel⟩
  -- A state holds floats, so it is left out of what is evaluated.
  exact Column.eq_error_of_map (f := fun _ => ()) (by decide +kernel)

end Database
end StakingIndexer
