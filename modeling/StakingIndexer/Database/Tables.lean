import StakingIndexer.Database.Row

/-!
# Tables

The rows of a database and the statements over them. A statement that fails leaves what
the statements before it wrote; a transaction leaves nothing. A row that is written again
moves behind the other rows of its table. The rows that a change brings to a table are written
by one statement, which cannot bind any number of values.
-/

namespace StakingIndexer

open Column

/-- The rows of every table, in the order in which they were written, and the number of the
next report. -/
structure Tables where
  cursors : List CursorRow
  aggregates : List AggregateRow
  holders : List HolderRow
  reports : List ReportRow
  ledgers : List LedgerRow
  relayLedgers : List RelayLedgerRow
  validators : List ValidatorsRow
  nextReport : Nat

/-- Statements over the tables. -/
abbrev Statement := Action Tables DatabaseError

namespace Tables

def empty : Tables := ⟨[], [], [], [], [], [], [], 1⟩

/-- The errors of conversions are the errors of the statements that need them. -/
def convert {α : Type} (c : Converted α) : Statement α := fun t => (c, t)

/-- Run statements that leave nothing behind if one of them fails. -/
def transaction {α : Type} (s : Statement α) : Statement α := fun t =>
  match s t with
  | (.ok a, written) => (.ok a, written)
  | (.error e, _) => (.error e, t)

/-- Write a row in place of the rows with its key. -/
def upsert {ρ : Type} (sameKey : ρ → Bool) (row : ρ) (rows : List ρ) : List ρ :=
  rows.filter (!sameKey ·) ++ [row]

/-- Refuse rows of which a query can return no decimal. -/
def readable {ρ : Type} (numerics : ρ → List Numeric) (rows : List ρ) : Converted (List ρ) :=
  if rows.any fun r => (numerics r).any Numeric.isSpecial then .error unreadable else .ok rows

/-- Refuse a text that no column can hold. -/
def checkText (s : String) : Converted Unit :=
  if s.toList.contains '\x00' then .error (.query "text holds a character of code zero")
  else .ok ()

/-- How many values one statement can bind. -/
def maxBinds : Nat := 65535

/-- Whether one statement can write so many rows of a number of columns. -/
def BindsFit (columns rows : Nat) : Prop := columns * rows ≤ maxBinds

instance (columns rows : Nat) : Decidable (BindsFit columns rows) :=
  inferInstanceAs (Decidable (_ ≤ _))

/-- Refuse more rows than one statement can write. -/
def checkBinds (columns rows : Nat) : Converted Unit :=
  if BindsFit columns rows then .ok () else .error (.query "too many values for one statement")

/-! ## Cursors -/

/-- Move a cursor forward, and say whether it has moved. -/
def advanceCursor (c : ScanCursor) : Statement Bool := do
  let row ← convert (CursorRow.ofCursor c)
  let sameKey (r : CursorRow) : Bool := r.chain = row.chain && r.target = row.target
  let t ← get
  if t.cursors.all fun r => !sameKey r || r.block < row.block then
    set { t with cursors := upsert sameKey row t.cursors }
    return true
  else return false

def loadCursor (chain : Chain) (target : TargetId) : Statement (Option ScanCursor) := do
  let t ← get
  let row := t.cursors.find? fun r => r.chain = chain.name && r.target = target.name
  row.mapM fun r => convert r.toCursor

/-! ## Aggregates -/

/-- Create the row of a chain unless it exists. -/
def ensureAggregate (chain : Chain) : Statement Unit :=
  modify fun t =>
    if t.aggregates.any (·.chain = chain.name) then t
    else { t with aggregates := t.aggregates ++ [{ chain := chain.name }] }

/-- Change the row of a chain, if it exists. -/
def updateAggregate (chain : Chain) (f : AggregateRow → Converted AggregateRow) :
    Statement Unit := do
  let t ← get
  let rows ← t.aggregates.mapM fun r => convert (if r.chain = chain.name then f r else .ok r)
  set { t with aggregates := rows }

/-- Replace columns of a chain's row. -/
def overwriteAggregate (chain : Chain) (columns : AggregateColumns) : Statement Unit :=
  if columns.isEmpty then pure () else updateAggregate chain fun r => .ok (columns.apply r)

/-- The sum of two counts, if it is one. -/
def addCount (stored added : Int64) : Converted Int64 :=
  match Word.signed? (stored.toInt + added.toInt) with
  | some sum => .ok sum
  | none => .error (.query "count out of range")

/-- Add to the counters of a chain's row. The buffered redeems do not fall below zero. -/
def incrementAggregate (chain : Chain) (c : CounterIncrements) : Statement Unit :=
  if c.isEmpty then pure ()
  else do
    let depositedCount ← convert (ofWord c.depositedCount)
    let redeemedCount ← convert (ofWord c.redeemedCount)
    updateAggregate chain fun r => do
      let add (stored : Numeric) (a : Amount) : Numeric := stored.combine .add (.ofAmount a)
      return { r with
        deposited := add r.deposited c.deposited
        redeemed := add r.redeemed c.redeemed
        depositedCount := ← addCount r.depositedCount depositedCount
        redeemedCount := ← addCount r.redeemedCount redeemedCount
        rewardsAggregated := add r.rewardsAggregated c.rewardsAggregated
        lossesAggregated := add r.lossesAggregated c.lossesAggregated
        bufferedDeposits := add r.bufferedDeposits c.bufferedDeposits
        bufferedRedeems :=
          (r.bufferedRedeems.combine .sub (.ofAmount c.bufferedRedeemsDrawn)).combine
            .greatest .zero }

/-- The state that is stored for a chain, without what other tables hold. -/
def loadAggregate (chain : Chain) : Statement (Option AggregateState) := do
  let t ← get
  let rows ← convert (readable AggregateRow.numerics
    (t.aggregates.find? (·.chain = chain.name)).toList)
  rows.head?.mapM fun r => convert r.toState

/-! ## Holders -/

/-- The balances that are not zero, with their holders. -/
def held (balances : AddressMap Amount) : List (Address × Amount) :=
  balances.entries.filter (!·.2.isZero)

/-- Set balances. Holders whose balance is zero are removed first, and the others are written in
one statement. -/
def writeHolders (chain : Chain) (balances : AddressMap Amount) : Statement Unit := do
  let emptied := (balances.entries.filter (·.2.isZero)).map (·.1.toChecksum)
  modify fun t => { t with
    holders := t.holders.filter fun r => !(r.chain = chain.name && emptied.contains r.address) }
  convert (checkBinds 3 (held balances).length)
  modify fun t => { t with
    holders := (held balances).foldl (fun rows e =>
      let row := HolderRow.ofHolder chain e.1 e.2
      upsert (fun r => r.chain = row.chain && r.address = row.address) row rows) t.holders }

/-- The balances of a chain's holders. Of two rows for one holder the later one counts. -/
def loadHolders (chain : Chain) : Statement (AddressMap Amount) := do
  let t ← get
  let rows ← convert (readable (fun r => [r.balance]) (t.holders.filter (·.chain = chain.name)))
  return .ofList (← rows.mapM fun r => convert r.toHolder)

/-! ## Reports -/

/-- Append reports in one statement, none of them if one cannot be converted. -/
def insertReports (rows : List RewardRow) : Statement Unit := do
  let written ← rows.mapM fun r => convert (ReportRow.ofReward r)
  convert (checkBinds 4 rows.length)
  modify fun t =>
    written.foldl (fun t r =>
      { t with
        reports := t.reports ++ [{ r with number := t.nextReport }]
        nextReport := t.nextReport + 1 }) t

/-- Whether a report comes first where the newest report does: at the greater block, and of
one block the one with the greater number. -/
def isNewer (a b : ReportRow) : Bool :=
  b.block < a.block || (a.block = b.block && b.number ≤ a.number)

/-- The ledgers that have reported, in the order of their text. -/
def reportingLedgers (rows : List ReportRow) : List String :=
  (rows.foldl (fun seen r => if seen.contains r.ledger then seen else seen ++ [r.ledger])
    []).mergeSort fun a b => !(b < a)

/-- The last `limit` reports of each ledger, newest first, by the text of the ledger. -/
def recentReports (limit : Nat) : Statement (List RewardRow) := do
  if Int64.maxValue.toInt < limit then throw (.conversion "number too large to fit in target type")
  let t ← get
  let selected := (reportingLedgers t.reports).flatMap fun ledger =>
    ((t.reports.filter (·.ledger = ledger)).mergeSort isNewer).take limit
  let rows ← convert (readable (fun r => [r.reward, r.balance]) selected)
  rows.mapM fun r => convert r.toReward

/-! ## Ledgers -/

def upsertLedger (record : LedgerRecord) : Statement Unit :=
  let row := LedgerRow.ofRecord record
  modify fun t => { t with ledgers := upsert (·.ledger = row.ledger) row t.ledgers }

def loadLedgers : Statement (List LedgerRecord) := do
  let rows ← convert (readable LedgerRow.numerics (← get).ledgers)
  rows.mapM fun r => convert r.toRecord

def upsertRelayLedger (record : RelayLedgerRecord) : Statement Unit := do
  let row ← convert (RelayLedgerRow.ofRecord record)
  convert (checkText row.stash)
  modify fun t => { t with relayLedgers := upsert (·.ledger = row.ledger) row t.relayLedgers }

def loadRelayLedgers : Statement (List RelayLedgerRecord) := do
  let rows ← convert (readable RelayLedgerRow.numerics (← get).relayLedgers)
  rows.mapM fun r => convert r.toRecord

/-! ## Validators -/

/-- Replace all validator records in one statement. No two of them may be of one ledger. -/
def replaceValidators (infos : List ValidatorsInfo) : Statement Unit := do
  let rows := infos.map ValidatorsRow.ofInfo
  modify fun t => { t with validators := [] }
  convert (checkBinds 4 infos.length)
  rows.forM fun r => do
    convert (checkText r.stash)
    r.validators.forM fun v => convert (checkText v)
  if (rows.map (·.ledger)).Nodup then modify fun t => { t with validators := rows }
  else throw (.query "ledger is repeated")

def loadValidators : Statement (List ValidatorsInfo) := do
  let rows ← convert (readable (fun r => [r.activeStake]) (← get).validators)
  rows.mapM fun r => convert r.toInfo

/-! ## Changes -/

/-- Write everything that a change holds besides the cursor. -/
def writeDelta (delta : AggregateDelta) (columns : AggregateColumns) : Statement Unit := do
  ensureAggregate delta.chain
  overwriteAggregate delta.chain columns
  incrementAggregate delta.chain delta.counters
  writeHolders delta.chain delta.holderBalances
  insertReports delta.rewardRows
  delta.ledgers.forM upsertLedger
  delta.relayLedgers.forM upsertRelayLedger
  match delta.validatorsInfo with
  | some infos => replaceValidators infos
  | none => pure ()

/-- Move the cursor and write the change, or do nothing if the cursor does not move. -/
def commit (cursor : ScanCursor) (delta : AggregateDelta) (columns : AggregateColumns) :
    Statement CommitOutcome :=
  transaction do
    if ← advanceCursor cursor then
      writeDelta delta columns
      return .applied
    else return .alreadyApplied

/-- Everything that is stored for a chain. -/
def loadState (chain : Chain) : Statement (Option AggregateState) := do
  match ← loadAggregate chain with
  | none => return none
  | some state =>
    let state := { state with holderBalances := ← loadHolders chain }
    match chain with
    | .parachain =>
      let records ← loadLedgers
      return some { state with ledgers := .ofList (records.map fun r => (r.ledger, r)) }
    | .relayChain =>
      let records ← loadRelayLedgers
      return some { state with relayLedgers := .ofList (records.map fun r => (r.ledger, r)) }

end Tables
end StakingIndexer
