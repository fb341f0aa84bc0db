import Mathlib
import StakingIndexer.Proofs.Database.Reading

/-!
# Statements beside the aggregates

Most statements neither read nor write the rows of the aggregates. They do the same whatever these
rows are, and leave them as they are.
-/

namespace StakingIndexer

open StakingIndexer.Action Column

namespace Tables

def withAggregates (t : Tables) (rows : List AggregateRow) : Tables := { t with aggregates := rows }

/-- A statement to which the rows of the aggregates make no difference. -/
def Frames {α : Type} (s : Statement α) : Prop :=
  ∀ t rows, s (t.withAggregates rows) = ((s t).1, (s t).2.withAggregates rows)

variable {α β : Type}

theorem frames_pure (v : α) : Frames (pure v : Statement α) := fun _ _ => rfl

theorem frames_throw (e : DatabaseError) : Frames (throw e : Statement α) := fun _ _ => rfl

theorem frames_convert (c : Converted α) : Frames (convert c) := fun _ _ => rfl

theorem frames_modify {f : Tables → Tables}
    (h : ∀ t rows, f (t.withAggregates rows) = (f t).withAggregates rows) :
    Frames (modify f : Statement Unit) := fun t rows => congrArg (Prod.mk _) (h t rows)

theorem Frames.bind {a : Statement α} {f : α → Statement β} (ha : Frames a)
    (hf : ∀ v, Frames (f v)) : Frames (a >>= f) := by
  intro t rows
  rw [bind_eq, bind_eq, ha]
  obtain ⟨e | v, u⟩ := a t
  · rfl
  · exact hf v u rows

theorem frames_get_bind {f : Tables → Statement β}
    (h : ∀ t rows, f (t.withAggregates rows) = f t) (hf : ∀ t, Frames (f t)) :
    Frames (get >>= f : Statement β) := by
  intro t rows
  change f (t.withAggregates rows) (t.withAggregates rows)
    = ((f t t).1, (f t t).2.withAggregates rows)
  rw [h]
  exact hf t t rows

theorem frames_forM {f : α → Statement PUnit} (h : ∀ a, Frames (f a)) (l : List α) :
    Frames (l.forM f) := by
  induction l with
  | nil => exact frames_pure _
  | cons a l ih => exact (h a).bind fun _ => ih

theorem frames_mapM {f : α → Statement β} (h : ∀ a, Frames (f a)) (l : List α) :
    Frames (l.mapM f) := by
  induction l with
  | nil => exact frames_pure _
  | cons a l ih =>
    rw [List.mapM_cons]
    exact (h a).bind fun _ => ih.bind fun _ => frames_pure _

/-! ## What is written besides the aggregates -/

theorem frames_writeHolders (chain : Chain) (balances : AddressMap Amount) :
    Frames (writeHolders chain balances) :=
  (frames_modify fun _ _ => rfl).bind fun _ => (frames_convert _).bind fun _ =>
    frames_modify fun _ _ => rfl

theorem frames_insertReports (rewards : List RewardRow) : Frames (insertReports rewards) := by
  refine (frames_mapM (fun _ => frames_convert _) rewards).bind fun reports => ?_
  refine (frames_convert _).bind fun _ => frames_modify fun t rows => ?_
  induction reports generalizing t with
  | nil => rfl
  | cons r reports ih =>
    exact ih { t with
      reports := t.reports ++ [{ r with number := t.nextReport }]
      nextReport := t.nextReport + 1 }

theorem frames_upsertLedger (record : LedgerRecord) : Frames (upsertLedger record) :=
  frames_modify fun _ _ => rfl

theorem frames_upsertRelayLedger (record : RelayLedgerRecord) :
    Frames (upsertRelayLedger record) :=
  (frames_convert _).bind fun _ => (frames_convert _).bind fun _ => frames_modify fun _ _ => rfl

theorem frames_replaceValidators (infos : List ValidatorsInfo) :
    Frames (replaceValidators infos) := by
  have hclear : Frames (modify fun t => { t with validators := [] } : Statement Unit) :=
    frames_modify fun _ _ => rfl
  refine hclear.bind fun _ => (frames_convert _).bind fun _ => ?_
  refine (frames_forM (fun r => ?_) _).bind fun _ => ?_
  · exact (frames_convert _).bind fun _ => frames_forM (fun _ => frames_convert _) _
  · split_ifs
    · exact frames_modify fun _ _ => rfl
    · exact frames_throw _

def replaceGiven (infos : Option (List ValidatorsInfo)) : Statement Unit :=
  match infos with
  | some infos => replaceValidators infos
  | none => pure ()

theorem frames_replaceGiven (infos : Option (List ValidatorsInfo)) :
    Frames (replaceGiven infos) := by
  cases infos with
  | some infos => exact frames_replaceValidators infos
  | none => exact frames_pure _

/-- What a change writes behind the aggregates. -/
def writeRecords (d : AggregateDelta) : Statement Unit := do
  writeHolders d.chain d.holderBalances
  insertReports d.rewardRows
  d.ledgers.forM upsertLedger
  d.relayLedgers.forM upsertRelayLedger
  replaceGiven d.validatorsInfo

theorem writeDelta_eq (d : AggregateDelta) (columns : AggregateColumns) :
    writeDelta d columns = (do
      ensureAggregate d.chain
      overwriteAggregate d.chain columns
      incrementAggregate d.chain d.counters
      writeRecords d) := rfl

theorem bind_of_ok {a : Statement α} {f : α → Statement β} {v : α} {t t' : Tables}
    (h : a t = (.ok v, t')) : (a >>= f) t = f v t' := by
  rw [bind_eq, h]

/-- A change whose row is written writes the rest. -/
theorem writeDelta_of_row {d : AggregateDelta} {columns : AggregateColumns} {t t₁ t₂ t₃ : Tables}
    (hensure : ensureAggregate d.chain t = (.ok (), t₁))
    (hoverwrite : overwriteAggregate d.chain columns t₁ = (.ok (), t₂))
    (hincrement : incrementAggregate d.chain d.counters t₂ = (.ok (), t₃)) :
    writeDelta d columns t = writeRecords d t₃ := by
  rw [writeDelta_eq, bind_of_ok hensure, bind_of_ok hoverwrite, bind_of_ok hincrement]

theorem writeDelta_of_noColumns {d : AggregateDelta} {columns : AggregateColumns}
    (hcolumns : columns.isEmpty) (hcounters : d.counters = {}) (t : Tables) :
    ∃ u, writeDelta d columns t = writeRecords d u := by
  have hoverwrite : ∀ u, overwriteAggregate d.chain columns u = (.ok (), u) := by
    intro u
    rw [overwriteAggregate, if_pos hcolumns]
    rfl
  have hincrement : ∀ u, incrementAggregate d.chain d.counters u = (.ok (), u) := by
    intro u
    rw [hcounters]
    rfl
  exact ⟨_, writeDelta_of_row rfl (hoverwrite _) (hincrement _)⟩

theorem frames_writeRecords (d : AggregateDelta) : Frames (writeRecords d) := by
  refine (frames_writeHolders _ _).bind fun _ => (frames_insertReports _).bind fun _ => ?_
  refine (frames_forM frames_upsertLedger _).bind fun _ => ?_
  refine (frames_forM frames_upsertRelayLedger _).bind fun _ => ?_
  exact frames_replaceGiven d.validatorsInfo

/-! ## What is read besides the aggregates -/

theorem frames_loadHolders (chain : Chain) : Frames (loadHolders chain) :=
  frames_get_bind (fun _ _ => rfl) fun _ => (frames_convert _).bind fun _ =>
    (frames_mapM (fun _ => frames_convert _) _).bind fun _ => frames_pure _

theorem frames_loadLedgers : Frames loadLedgers :=
  frames_get_bind (fun _ _ => rfl) fun _ => (frames_convert _).bind fun _ =>
    frames_mapM (fun _ => frames_convert _) _

theorem frames_loadRelayLedgers : Frames loadRelayLedgers :=
  frames_get_bind (fun _ _ => rfl) fun _ => (frames_convert _).bind fun _ =>
    frames_mapM (fun _ => frames_convert _) _

theorem frames_completeState (chain : Chain) (state : AggregateState) :
    Frames (completeState chain state) := by
  refine (frames_loadHolders chain).bind fun _ => ?_
  cases chain with
  | parachain => exact frames_loadLedgers.bind fun _ => frames_pure _
  | relayChain => exact frames_loadRelayLedgers.bind fun _ => frames_pure _

end Tables
end StakingIndexer
