import StakingIndexer.Store.Memory

/-!
# Commands to a store

A history of a store is a list of commands, each of which is answered.
-/

namespace StakingIndexer

/-- What every store can be asked. -/
inductive CheckpointCommand where
  | commit (cursor : ScanCursor) (delta : AggregateDelta)
  | cursor (chain : Chain) (target : TargetId)
  | state (chain : Chain)
  | recentRewards (limit : Nat)

/-- What a store answers. -/
inductive CheckpointAnswer where
  | outcome (outcome : CommitOutcome)
  | cursor (cursor : Option ScanCursor)
  | state (state : Option AggregateState)
  | rewards (rows : List RewardRow)

/-- Carry out a command. -/
def CheckpointStore.execute {σ : Type} (s : CheckpointStore σ) :
    CheckpointCommand → Action σ StoreError CheckpointAnswer
  | .commit cursor delta => .outcome <$> s.commit cursor delta
  | .cursor chain target => .cursor <$> s.loadCursor chain target
  | .state chain => .state <$> s.loadState chain
  | .recentRewards limit => .rewards <$> s.recentRewards limit

/-- What a store in memory can be asked besides. -/
inductive MemoryCommand where
  | checkpoint (command : CheckpointCommand)
  | insertRewards (rows : List RewardRow)
  | failNextCommits (n : Nat)
  | summary

/-- What a store in memory answers. -/
inductive MemoryAnswer where
  | checkpoint (answer : Except StoreError CheckpointAnswer)
  | done
  | summary (store : MemoryStore)

namespace MemoryStore

/-- Carry out a command. -/
def execute (c : MemoryCommand) : StateM MemoryStore MemoryAnswer := fun s =>
  match c with
  | .checkpoint c =>
    let (answer, s) := store.execute c s
    (.checkpoint answer, s)
  | .insertRewards rows => (.done, s.insertRewards rows)
  | .failNextCommits n => (.done, s.failNextCommits n)
  | .summary => (.summary s, s)

end MemoryStore
end StakingIndexer
