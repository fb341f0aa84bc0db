import StakingIndexer.Aggregate.Delta

/-!
# Checkpoint stores

A store keeps the cursors and the aggregate states. A commit applies a change and moves
the cursor as one operation, and does nothing unless it moves the cursor forward, which
makes repeating a window harmless.
-/

namespace StakingIndexer

/-- A computation over a state that may fail and keeps the state in either case. -/
abbrev Action (σ ε α : Type) := ExceptT ε (StateM σ) α

namespace Action

variable {σ τ ε ε' α : Type}

/-- Run an action of a part of the state. -/
def onPart (get : τ → σ) (set : σ → τ → τ) (a : Action σ ε α) : Action τ ε α :=
  fun t => let r := a (get t); (r.1, set r.2 t)

/-- Rename the errors of an action. -/
def mapError (f : ε → ε') (a : Action σ ε α) : Action σ ε' α :=
  fun s => let r := a s; (r.1.mapError f, r.2)

/-- Read the state. -/
def read (f : σ → α) : Action σ ε α := fun s => (.ok (f s), s)

end Action

/-- Why the database fails. -/
inductive DatabaseError where
  | clientSetup (detail : String)
  | poolConnection (detail : String)
  | query (detail : String)
  | conversion (detail : String)
  | migration (detail : String)
deriving DecidableEq

namespace DatabaseError

def message : DatabaseError → String
  | clientSetup detail => "client setup error: " ++ detail
  | poolConnection detail => "pool connection error: " ++ detail
  | query detail => "query error: " ++ detail
  | conversion detail => "conversion error: " ++ detail
  | migration detail => "migration error: " ++ detail

end DatabaseError

/-- Why a store fails. A stored value without a counterpart among the domain's has no
conversion. -/
inductive StoreError where
  | database (cause : DatabaseError)
  | conversion (detail : String)
  | unavailable (detail : String)
deriving DecidableEq

namespace StoreError

def message : StoreError → String
  | database cause => "database error: " ++ cause.message
  | conversion detail => "conversion error: " ++ detail
  | unavailable detail => "store unavailable: " ++ detail

end StoreError

/-- What a commit did. It was already applied if the stored cursor was at or beyond the
block, and then nothing was written. -/
inductive CommitOutcome where
  | applied
  | alreadyApplied
deriving DecidableEq

/-- What a store over a state `σ` can do. Recent rewards are the last reports of each
ledger, newest first. -/
structure CheckpointStore (σ : Type) where
  loadCursor : Chain → TargetId → Action σ StoreError (Option ScanCursor)
  loadState : Chain → Action σ StoreError (Option AggregateState)
  commit : ScanCursor → AggregateDelta → Action σ StoreError CommitOutcome
  recentRewards : Nat → Action σ StoreError (List RewardRow)

namespace CheckpointStore

variable {σ τ : Type}

/-- A store that is a part of a larger state. -/
def onPart (get : τ → σ) (set : σ → τ → τ) (s : CheckpointStore σ) : CheckpointStore τ where
  loadCursor chain target := (s.loadCursor chain target).onPart get set
  loadState chain := (s.loadState chain).onPart get set
  commit cursor delta := (s.commit cursor delta).onPart get set
  recentRewards limit := (s.recentRewards limit).onPart get set

end CheckpointStore
end StakingIndexer
