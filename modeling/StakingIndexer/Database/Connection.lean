import StakingIndexer.Database.Price
import StakingIndexer.Database.Tables

/-!
# Databases

A database answers or does not. Every statement needs a connection, but what a commit
replaces in the aggregates is converted before the connection is asked for.
-/

namespace StakingIndexer

/-- Tables behind connections, if connections can be made. -/
structure Database where
  tables : Tables
  prices : List PriceTable
  reachable : Bool

namespace Database

def empty (reachable : Bool) : Database := ⟨.empty, [], reachable⟩

/-- The error of a connection that is not made in time. -/
def timeout : DatabaseError := .poolConnection "Timed out in bb8"

/-- Run statements over a connection. -/
def connected {α : Type} (s : Statement α) : Action Database DatabaseError α := fun d =>
  if d.reachable then
    let (r, tables) := s d.tables
    (r, { d with tables })
  else (.error timeout, d)

/-- Apply a change if the cursor moves forward, as one transaction. -/
def commit (cursor : ScanCursor) (delta : AggregateDelta) :
    Action Database DatabaseError CommitOutcome := fun d =>
  match AggregateColumns.ofDelta delta with
  | .error e => (.error e, d)
  | .ok columns => connected (Tables.commit cursor delta columns) d

/-- The price of a day, if there is one. -/
def price (symbol : TokenSymbol) (date : Date) (d : Database) :
    Except DatabaseError (Option Float) :=
  if d.reachable then PriceTable.price d.prices symbol date else .error timeout

/-- The price of a day, as far as it can be found out. -/
def lookupPrice (symbol : TokenSymbol) (date : Date) (d : Database) : Option Float :=
  match d.price symbol date with
  | .ok price => price
  | .error _ => none

/-- The database as a store. -/
def store : CheckpointStore Database where
  loadCursor chain target := (connected (Tables.loadCursor chain target)).mapError .database
  loadState chain := (connected (Tables.loadState chain)).mapError .database
  commit cursor delta := (commit cursor delta).mapError .database
  recentRewards limit := (connected (Tables.recentReports limit)).mapError .database

end Database
end StakingIndexer
