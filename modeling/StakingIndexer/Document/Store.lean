import StakingIndexer.Document.Aggregate
import StakingIndexer.Document.Error
import StakingIndexer.Store.Command

/-!
# Documents of commands to stores and of their answers
-/

namespace StakingIndexer
namespace Document

def cursor (c : ScanCursor) : Json :=
  .object [("chain", text c.chain.name), ("target", text c.target.name), ("block", word c.block)]

def commitOutcome : CommitOutcome → Json
  | .applied => text "Applied"
  | .alreadyApplied => text "AlreadyApplied"

/-- The answer of a step that only changes something. -/
def done : Json := text "ok"

/-- The change that a document gives, an empty one of the parachain if it gives none. -/
def getDelta (j : Json) : Option AggregateDelta :=
  get readAggregateDelta { chain := .parachain } j "delta"

/-- The target that a document gives, else the events. -/
def getTarget (j : Json) : Option TargetId := get readTarget .events j "target"

def readCheckpointCommand : Read CheckpointCommand := fun j => do
  match ← getText j "do" with
  | "commit" =>
    let delta ← getDelta j
    let chain ← get readChain delta.chain j "chain"
    return .commit ⟨chain, ← getTarget j, ← getWord j "block", 0⟩ delta
  | "cursor" => return .cursor (← getChain j "chain") (← getTarget j)
  | "state" => return .state (← getChain j "chain")
  | "recent_rewards" => return .recentRewards (← getNat j "limit")
  | _ => none

def checkpointAnswer : CheckpointAnswer → Json
  | .outcome o => commitOutcome o
  | .cursor c => .object [("cursor", orNull cursor c)]
  | .state s => .object [("state", orNull aggregateState s)]
  | .rewards rows => .object [("rows", .array (rows.map rewardRow))]

def readMemoryCommand : Read MemoryCommand := fun j => do
  match ← getText j "do" with
  | "insert_rewards" => return .insertRewards (← getList readRewardRow j "rows")
  | "fail_next_commits" => return .failNextCommits (← getNat j "n")
  | "summary" => return .summary
  | _ => (readCheckpointCommand j).map .checkpoint

def memoryAnswer : MemoryAnswer → Json
  | .checkpoint answer => outcome storeError checkpointAnswer answer
  | .done => done
  | .summary s =>
    .object [("applied_commits", .nat s.appliedCommits),
      ("reward_rows", .array (s.rewards.map rewardRow)),
      ("validators_info", .array (s.validatorsInfo.map validatorsInfo))]

end Document
end StakingIndexer
