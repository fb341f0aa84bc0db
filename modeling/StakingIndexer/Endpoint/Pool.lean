import StakingIndexer.Chain
import StakingIndexer.Gauge

/-!
# Pools of redundant endpoints

The endpoints of one chain are handed out in turn. One that fails is withheld until its
quarantine is over, which is looked at whenever an endpoint is asked for. Instants are
milliseconds and come from the caller. They are unbounded here, while those of a clock have
an end: no quarantine may be so long that it would end behind it.
-/

namespace StakingIndexer

/-- A node that can be called, and its place in its pool. -/
structure Endpoint where
  id : Nat
  url : String
  chain : Chain
deriving DecidableEq

/-- Why there is no endpoint. -/
inductive EndpointPoolError where
  | exhausted (chain : Chain)
  | empty (chain : Chain)
deriving DecidableEq

namespace EndpointPoolError

def message : EndpointPoolError → String
  | exhausted chain => "all " ++ chain.name ++ " endpoints are quarantined"
  | empty chain => "no endpoints configured for " ++ chain.name

end EndpointPoolError

/-- Whether an endpoint may be handed out. -/
inductive Health where
  | healthy
  | quarantined (expiry : Nat)
deriving DecidableEq

/-- How a call to an endpoint ended. -/
inductive CallOutcome where
  | success
  | failure
deriving DecidableEq

structure PoolSlot where
  url : String
  health : Health
deriving DecidableEq

namespace PoolSlot

def isHealthy (s : PoolSlot) : Bool := s.health = .healthy

/-- The slot at an instant: a quarantine that is over is lifted. -/
def promote (now : Nat) (s : PoolSlot) : PoolSlot :=
  match s.health with
  | .quarantined expiry => if expiry ≤ now then { s with health := .healthy } else s
  | .healthy => s

end PoolSlot

/-- The endpoints of a chain, at least one, and the slot at which the next search starts. A
failed endpoint is withheld for `quarantine`; `published` is the number of healthy endpoints
that was last published, if the pool publishes at all. -/
structure EndpointPool where
  chain : Chain
  quarantine : Nat
  slots : List PoolSlot
  cursor : Nat
  cursor_lt : cursor < slots.length
  published : Option Nat

namespace EndpointPool

/-- A pool of healthy endpoints. -/
def ofUrls (chain : Chain) (urls : List String) (quarantine : Nat) :
    Except EndpointPoolError EndpointPool :=
  match urls with
  | [] => .error (.empty chain)
  | url :: rest => .ok
    { chain, quarantine, cursor := 0, published := none
      slots := (url :: rest).map fun url => ⟨url, .healthy⟩
      cursor_lt := by simp }

def size (p : EndpointPool) : Nat := p.slots.length

def urls (p : EndpointPool) : List String := p.slots.map (·.url)

def healthyCount (p : EndpointPool) : Nat := p.slots.countP (·.isHealthy)

/-- Publish the number of healthy endpoints if the pool has a publisher. -/
def publishHealth (p : EndpointPool) : EndpointPool :=
  { p with published := p.published.map fun _ => p.healthyCount }

/-- Give the pool a publisher, which learns the number of healthy endpoints at once. -/
def attachPublisher (p : EndpointPool) : EndpointPool := { p with published := some p.healthyCount }

/-- The gauge that the pool has set, if it publishes. -/
def gauges (p : EndpointPool) : List Gauge :=
  p.published.toList.map fun n =>
    .labeled "endpoint_pool_healthy_endpoints" "chain" p.chain.name n.toFloat

/-- A registry in which the pool has set its gauge. -/
def publishTo (p : EndpointPool) (registry : Publisher) : Publisher := registry.publishAll p.gauges

/-- Lift the quarantines that are over. -/
def promoteExpired (p : EndpointPool) (now : Nat) : EndpointPool :=
  { p with slots := p.slots.map (·.promote now), cursor_lt := by simpa using p.cursor_lt }

/-- The endpoint in a slot. -/
def endpoint? (p : EndpointPool) (id : Nat) : Option Endpoint :=
  p.slots[id]?.map fun s => ⟨id, s.url, p.chain⟩

/-- The slots in the order of the search. -/
def searchOrder (p : EndpointPool) : List Nat :=
  (List.range p.size).map fun offset => (p.cursor + offset) % p.size

/-- The first healthy slot in the order of the search. -/
def nextHealthy? (p : EndpointPool) : Option Nat :=
  p.searchOrder.find? fun id => p.slots[id]?.any (·.isHealthy)

/-- Let the next search start behind a slot. -/
def advanceTo (p : EndpointPool) (id : Nat) : EndpointPool :=
  { p with
    cursor := (id + 1) % p.slots.length
    cursor_lt := Nat.mod_lt _ (Nat.lt_of_le_of_lt (Nat.zero_le _) p.cursor_lt) }

/-- Hand out the next healthy endpoint. -/
def acquire (p : EndpointPool) (now : Nat) : Except EndpointPoolError Endpoint × EndpointPool :=
  let promoted := p.promoteExpired now
  let q := if promoted.slots = p.slots then p else promoted.publishHealth
  match q.nextHealthy? with
  | none => (.error (.exhausted q.chain), q)
  | some id =>
    match q.endpoint? id with
    | none => (.error (.exhausted q.chain), q)
    | some e => (.ok e, q.advanceTo id)

/-- Change the health of a slot. -/
def setHealth (p : EndpointPool) (id : Nat) (health : Health) : EndpointPool :=
  { p with
    slots := p.slots.modify id fun s => { s with health }
    cursor_lt := by simpa using p.cursor_lt }

/-- Note how a call ended. A failure starts a new quarantine, a success ends one; an
endpoint that is not of the pool is ignored. -/
def report (p : EndpointPool) (now id : Nat) (outcome : CallOutcome) : EndpointPool :=
  match p.slots[id]?, outcome with
  | none, _ => p
  | some _, .failure => (p.setHealth id (.quarantined (now + p.quarantine))).publishHealth
  | some slot, .success =>
    if slot.isHealthy then p else (p.setHealth id .healthy).publishHealth

end EndpointPool
end StakingIndexer
