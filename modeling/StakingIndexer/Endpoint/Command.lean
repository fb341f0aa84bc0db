import StakingIndexer.Endpoint.Pool

/-!
# Commands to a pool

A history of a pool is a list of commands; time passes between them.
-/

namespace StakingIndexer

/-- What can happen to a pool. Time passes in milliseconds. -/
inductive PoolCommand where
  | acquire
  | report (id : Nat) (outcome : CallOutcome)
  | advance (milliseconds : Nat)
  | attachPublisher

/-- A pool and the time. -/
structure TimedPool where
  pool : EndpointPool
  now : Nat

namespace TimedPool

/-- What a command answers, if it answers at all. -/
abbrev Answer := Option (Except EndpointPoolError Endpoint)

/-- Carry out a command. -/
def execute (p : TimedPool) : PoolCommand → Answer × TimedPool
  | .acquire =>
    let (answer, pool) := p.pool.acquire p.now
    (some answer, { p with pool })
  | .report id outcome => (none, { p with pool := p.pool.report p.now id outcome })
  | .advance milliseconds => (none, { p with now := p.now + milliseconds })
  | .attachPublisher => (none, { p with pool := p.pool.attachPublisher })

end TimedPool
end StakingIndexer
