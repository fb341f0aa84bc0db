import StakingIndexer.Database.Connection
import StakingIndexer.Store.Command

/-!
# Commands to a database

A database is asked as a store, or for single statements.
-/

namespace StakingIndexer

/-- What a database can be asked. -/
inductive DatabaseCommand where
  | checkpoint (command : CheckpointCommand)
  | validators
  | ledgers
  | relayLedgers
  | holders (chain : Chain)
  | migrate
  | advanceCursor (cursor : ScanCursor)
  | ensureAggregate (chain : Chain)
  | overwriteAggregate (chain : Chain) (delta : AggregateDelta)
  | incrementAggregate (chain : Chain) (counters : CounterIncrements)
  | writeHolders (chain : Chain) (balances : AddressMap Amount)
  | insertReports (rows : List RewardRow)

/-- What a database answers. -/
inductive DatabaseAnswer where
  | checkpoint (answer : CheckpointAnswer)
  | validators (infos : List ValidatorsInfo)
  | ledgers (records : List LedgerRecord)
  | relayLedgers (records : List RelayLedgerRecord)
  | holders (balances : AddressMap Amount)
  | moved (moved : Bool)
  | done

namespace Database

/-- Carry out a command. -/
def execute : DatabaseCommand → Action Database StoreError DatabaseAnswer
  | .checkpoint c => .checkpoint <$> store.execute c
  | .validators => statement (.validators <$> Tables.loadValidators)
  | .ledgers => statement (.ledgers <$> Tables.loadLedgers)
  | .relayLedgers => statement (.relayLedgers <$> Tables.loadRelayLedgers)
  | .holders chain => statement (.holders <$> Tables.loadHolders chain)
  | .migrate => statement (pure .done)
  | .advanceCursor cursor => statement (.moved <$> Tables.advanceCursor cursor)
  | .ensureAggregate chain => silent (Tables.ensureAggregate chain)
  | .overwriteAggregate chain delta =>
    silent do
      let columns ← Tables.convert (AggregateColumns.ofDelta delta)
      Tables.overwriteAggregate chain columns
  | .incrementAggregate chain counters => silent (Tables.incrementAggregate chain counters)
  | .writeHolders chain balances => silent (Tables.writeHolders chain balances)
  | .insertReports rows => silent (Tables.insertReports rows)
where
  statement (s : Statement DatabaseAnswer) : Action Database StoreError DatabaseAnswer :=
    (connected s).mapError .database
  silent (s : Statement Unit) : Action Database StoreError DatabaseAnswer :=
    statement ((fun () => .done) <$> s)

end Database
end StakingIndexer
