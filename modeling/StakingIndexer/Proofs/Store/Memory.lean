import Mathlib
import StakingIndexer.Proofs.Store.Gate
import StakingIndexer.Store.Memory

/-!
# The store in memory behind its gate

A commit may be told to fail, and otherwise passes the gate of its cursor. The state of a chain
is what the changes that have passed lead to, one after the other.
-/

namespace StakingIndexer
namespace MemoryStore

theorem isNew_iff (s : MemoryStore) (c : ScanCursor) :
    s.isNew c ↔ ∀ stored, s.cursor c.chain c.target = some stored → stored.block < c.block := by
  unfold isNew
  cases s.cursor c.chain c.target <;> simp

/-- The store, whose next commits may be told to fail. -/
def faulty : FaultyStore MemoryStore Nat MemoryStore where
  commit := store.commit
  fault n s := s.failNextCommits n
  contents s := s.failNextCommits 0
  cursor := cursor

/-- The state to which the changes of a chain lead, if there are any. -/
def foldDeltas (chain : Chain) (deltas : List AggregateDelta) : Option AggregateState :=
  let own := deltas.filter (·.chain = chain)
  if own.isEmpty then none else some (own.foldl AggregateState.applyDelta (.empty chain))

theorem foldDeltas_append (chain : Chain) (deltas : List AggregateDelta) (d : AggregateDelta) :
    foldDeltas chain (deltas ++ [d])
      = if d.chain = chain
        then some (((foldDeltas chain deltas).getD (.empty chain)).applyDelta d)
        else foldDeltas chain deltas := by
  unfold foldDeltas
  rw [List.filter_append, List.filter_singleton]
  by_cases hchain : d.chain = chain
  · cases hown : deltas.filter (·.chain = chain) <;> simp [hchain]
  · simp [hchain]

theorem cursor_apply (s : MemoryStore) (c : ScanCursor) (d : AggregateDelta) (chain : Chain)
    (target : TargetId) :
    (s.apply c d).cursor chain target
      = if chain = c.chain ∧ target = c.target then some c else s.cursor chain target := by
  change ((s.cursors.set c.chain _).get chain).get target = if _ then _ else s.cursor chain target
  rw [PerChain.get_set]
  by_cases hchain : chain = c.chain
  · subst hchain
    simp [cursor]
  · simp [hchain, cursor]

def aggregate (s : MemoryStore) (chain : Chain) : AggregateState :=
  (s.aggregates.get chain).getD (.empty chain)

theorem aggregate_empty (chain : Chain) : empty.aggregate chain = .empty chain := by
  simp [aggregate, empty]

theorem aggregates_apply (s : MemoryStore) (c : ScanCursor) (d : AggregateDelta) (chain : Chain) :
    (s.apply c d).aggregates.get chain
      = if chain = d.chain then some ((s.aggregate chain).applyDelta d)
        else s.aggregates.get chain := by
  change (s.aggregates.set d.chain _).get chain = _
  rw [PerChain.get_set]
  split_ifs with h
  · subst h
    rfl
  · rfl

theorem aggregate_apply_eq (s : MemoryStore) (c : ScanCursor) (d : AggregateDelta)
    (chain : Chain) :
    (s.apply c d).aggregate chain
      = if chain = d.chain then (s.aggregate chain).applyDelta d else s.aggregate chain := by
  rw [aggregate, aggregates_apply]
  split_ifs <;> rfl

theorem aggregate_apply (s : MemoryStore) {chain : Chain} (c : ScanCursor)
    {delta : AggregateDelta} (h : delta.chain = chain) :
    (s.apply c delta).aggregate chain = (s.aggregate chain).applyDelta delta := by
  rw [aggregate_apply_eq, if_pos h.symm]

theorem commit_of_ready {s : MemoryStore} (hs : s.failingCommits = 0) (c : ScanCursor)
    (d : AggregateDelta) :
    commit c d s
      = if s.isNew c then (.ok .applied, s.apply c d) else (.ok .alreadyApplied, s) := by
  rw [commit, if_neg (by simp [hs])]

theorem commit_cases (s : MemoryStore) (c : ScanCursor) (d : AggregateDelta) :
    (∃ e n, commit c d s = (.error e, s.failNextCommits n)) ∨
      s.isNew c ∧ commit c d s = (.ok .applied, s.apply c d) ∨
      ¬ s.isNew c ∧ commit c d s = (.ok .alreadyApplied, s) := by
  unfold commit
  split_ifs with hfailing hnew
  · exact .inl ⟨_, _, rfl⟩
  · exact .inr (.inl ⟨hnew, rfl⟩)
  · exact .inr (.inr ⟨hnew, rfl⟩)

theorem gated_faulty : faulty.Gated fun _ => True where
  fault _ _ := rfl
  keeps _ _ _ _ := trivial
  commit c d s _ := by
    change faulty.CommitEffect _ c (MemoryStore.commit c d s).1
      (faulty.contents (MemoryStore.commit c d s).2)
    obtain ⟨e, n, h⟩ | ⟨hnew, h⟩ | ⟨hnew, h⟩ := s.commit_cases c d
    · rw [h]
      exact .failed e
    · rw [h]
      exact .applied ((s.isNew_iff c).1 hnew) (s.cursor_apply c d)
    · rw [h]
      exact .refused (mt (s.isNew_iff c).2 hnew)

theorem commitsOnce_faulty : faulty.CommitsOnce .empty := by
  refine gated_faulty.commitsOnce trivial fun chain target => ?_
  cases chain <;> cases target <;> rfl

theorem aggregates_commit (s : MemoryStore) (c : ScanCursor) (d : AggregateDelta) (chain : Chain) :
    (commit c d s).2.aggregates.get chain
      = if (commit c d s).1 = .ok .applied ∧ d.chain = chain
        then some ((s.aggregate chain).applyDelta d)
        else s.aggregates.get chain := by
  obtain ⟨e, n, h⟩ | ⟨-, h⟩ | ⟨-, h⟩ := s.commit_cases c d
  · simp [h, failNextCommits]
  · simp [h, aggregates_apply, eq_comm]
  · simp [h]

/-- The state of a chain is folded from the changes that are applied. -/
theorem aggregates_run (moves : List (StoreMove Nat)) (chain : Chain) :
    (faulty.run .empty moves).aggregates.get chain
      = foldDeltas chain ((faulty.applied .empty moves).map (·.delta)) := by
  induction moves using List.reverseRecOn with
  | nil => cases chain <;> rfl
  | append_singleton moves m ih =>
    rw [FaultyStore.run_append, FaultyStore.applied_append, List.map_append]
    generalize faulty.run .empty moves = s at ih ⊢
    cases m with
    | fault n =>
      refine ih.trans ?_
      exact congrArg (foldDeltas chain) (List.append_nil _).symm
    | commit c d =>
      have hcommit := s.aggregates_commit c d chain
      rw [aggregate, ih] at hcommit
      refine hcommit.trans ?_
      rw [FaultyStore.applied_commit]
      change _ = foldDeltas chain (_ ++ List.map _ (if (commit c d s).1 = _ then _ else _))
      by_cases happlied : (commit c d s).1 = .ok .applied
      · simp [happlied, foldDeltas_append]
      · simp [happlied]

end MemoryStore
end StakingIndexer
