import StakingIndexer.Store.Basic

/-!
# A store in memory

It has the commit rule of every store, and can be told to fail.
-/

namespace StakingIndexer

/-- Everything that is stored, reports in the order of insertion, and how many of the next
commits fail. -/
structure MemoryStore where
  cursors : PerChain (PerTarget (Option ScanCursor))
  aggregates : PerChain (Option AggregateState)
  rewards : List RewardRow
  validatorsInfo : List ValidatorsInfo
  appliedCommits : Nat
  failingCommits : Nat

namespace MemoryStore

def empty : MemoryStore :=
  ⟨.fill (.fill none), .fill none, [], [], 0, 0⟩

def cursor (s : MemoryStore) (chain : Chain) (target : TargetId) : Option ScanCursor :=
  (s.cursors.get chain).get target

/-- Whether a block lies beyond the stored cursor. -/
def isNew (s : MemoryStore) (cursor : ScanCursor) : Bool :=
  match s.cursor cursor.chain cursor.target with
  | some stored => stored.block < cursor.block
  | none => true

/-- Apply a change and move the cursor. -/
def apply (s : MemoryStore) (cursor : ScanCursor) (delta : AggregateDelta) : MemoryStore :=
  let before := (s.aggregates.get delta.chain).getD (.empty delta.chain)
  let cursors := (s.cursors.get cursor.chain).set cursor.target (some cursor)
  { s with
    cursors := s.cursors.set cursor.chain cursors
    aggregates := s.aggregates.set delta.chain (some (before.applyDelta delta))
    rewards := s.rewards ++ delta.rewardRows
    validatorsInfo := delta.validatorsInfo.getD s.validatorsInfo
    appliedCommits := s.appliedCommits + 1 }

/-- Apply a change if the cursor moves forward. -/
def commit (cursor : ScanCursor) (delta : AggregateDelta) :
    Action MemoryStore StoreError CommitOutcome := fun s =>
  if s.failingCommits ≠ 0 then
    (.error (.unavailable "injected commit failure"),
      { s with failingCommits := s.failingCommits - 1 })
  else if s.isNew cursor then (.ok .applied, s.apply cursor delta)
  else (.ok .alreadyApplied, s)

/-- The rows of one ledger, blocks descending, later insertions first within a block. -/
def ledgerRewards (rows : List RewardRow) (ledger : Address) : List RewardRow :=
  (rows.reverse.filter (·.ledger == ledger)).mergeSort fun a b => b.block ≤ a.block

/-- The ledgers that have reported, in ascending order. -/
def reportingLedgers (rows : List RewardRow) : List Address :=
  (rows.foldl (fun (m : AddressMap Unit) row => m.insert row.ledger ()) .empty).keys

/-- The last `limit` reports of each ledger, by ascending ledger. -/
def recentRewards (s : MemoryStore) (limit : Nat) : List RewardRow :=
  (reportingLedgers s.rewards).flatMap fun ledger => (ledgerRewards s.rewards ledger).take limit

def insertRewards (s : MemoryStore) (rows : List RewardRow) : MemoryStore :=
  { s with rewards := s.rewards ++ rows }

/-- Let the next `n` commits fail. -/
def failNextCommits (s : MemoryStore) (n : Nat) : MemoryStore := { s with failingCommits := n }

/-- The store's operations. -/
def store : CheckpointStore MemoryStore where
  loadCursor chain target := .read fun s => s.cursor chain target
  loadState chain := .read fun s => s.aggregates.get chain
  commit := commit
  recentRewards limit := .read fun s => s.recentRewards limit

end MemoryStore
end StakingIndexer
