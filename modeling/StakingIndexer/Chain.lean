import StakingIndexer.Saturating

/-!
# Chains, scan targets and block windows

Two chains are indexed by four scan targets, each of which owns one cursor: the last
block whose effects are stored.
-/

namespace StakingIndexer

/-- A chain that is indexed: the one that hosts the contracts, and the one on which the
pooled tokens are staked. -/
inductive Chain where
  | parachain
  | relayChain
deriving DecidableEq, Inhabited

namespace Chain

def all : List Chain := [parachain, relayChain]

/-- The identifier in rows and labels. -/
def name : Chain → String
  | parachain => "parachain"
  | relayChain => "relay_chain"

def parse? (s : String) : Option Chain := all.find? fun c => c.name == s

end Chain

/-- What a scan loop reads: events of the pool contract, snapshots of contract state,
snapshots of the staking pallet, or the validators that each stash nominates. -/
inductive TargetId where
  | events
  | parachainState
  | relayState
  | validatorsInfo
deriving DecidableEq, Inhabited

namespace TargetId

def all : List TargetId := [events, parachainState, relayState, validatorsInfo]

/-- The identifier in rows and gauge names. -/
def name : TargetId → String
  | events => "events"
  | parachainState => "parachain_state"
  | relayState => "relay_state"
  | validatorsInfo => "validators_info"

def parse? (s : String) : Option TargetId := all.find? fun t => t.name == s

end TargetId

/-- The blocks from `first` to `last`, both included. -/
structure BlockWindow where
  first : UInt64
  last : UInt64
deriving DecidableEq, Inhabited

namespace BlockWindow

def blockCount (w : BlockWindow) : UInt64 := w.last - w.first + 1

def contains (w : BlockWindow) (block : UInt64) : Bool := w.first ≤ block && block ≤ w.last

def toText (w : BlockWindow) : String :=
  "[" ++ toString w.first.toNat ++ "; " ++ toString w.last.toNat ++ "]"

end BlockWindow

/-- The stored position of a scan target, with the unix time at which it moved there. -/
structure ScanCursor where
  chain : Chain
  target : TargetId
  block : UInt64
  advancedAt : Int
deriving DecidableEq, Inhabited

/-- One value for each chain. -/
structure PerChain (α : Type) where
  parachain : α
  relayChain : α

namespace PerChain

variable {α : Type}

def get (p : PerChain α) : Chain → α
  | .parachain => p.parachain
  | .relayChain => p.relayChain

def set (p : PerChain α) (c : Chain) (v : α) : PerChain α :=
  match c with
  | .parachain => { p with parachain := v }
  | .relayChain => { p with relayChain := v }

def fill (v : α) : PerChain α := ⟨v, v⟩

@[simp] theorem get_set (p : PerChain α) (c d : Chain) (v : α) :
    (p.set c v).get d = if d = c then v else p.get d := by
  cases c <;> cases d <;> rfl

@[simp] theorem get_fill (v : α) (c : Chain) : (fill v).get c = v := by cases c <;> rfl

end PerChain

/-- One value for each scan target. -/
structure PerTarget (α : Type) where
  events : α
  parachainState : α
  relayState : α
  validatorsInfo : α

namespace PerTarget

variable {α : Type}

def get (p : PerTarget α) : TargetId → α
  | .events => p.events
  | .parachainState => p.parachainState
  | .relayState => p.relayState
  | .validatorsInfo => p.validatorsInfo

def set (p : PerTarget α) (t : TargetId) (v : α) : PerTarget α :=
  match t with
  | .events => { p with events := v }
  | .parachainState => { p with parachainState := v }
  | .relayState => { p with relayState := v }
  | .validatorsInfo => { p with validatorsInfo := v }

def fill (v : α) : PerTarget α := ⟨v, v, v, v⟩

@[simp] theorem get_set (p : PerTarget α) (t u : TargetId) (v : α) :
    (p.set t v).get u = if u = t then v else p.get u := by
  cases t <;> cases u <;> rfl

@[simp] theorem get_fill (v : α) (t : TargetId) : (fill v).get t = v := by cases t <;> rfl

end PerTarget
end StakingIndexer
