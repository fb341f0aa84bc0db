import Mathlib
import StakingIndexer.Database.Connection
import StakingIndexer.Proofs.Database.Column
import StakingIndexer.Proofs.Database.Entries
import StakingIndexer.Proofs.Reader.Answers
import StakingIndexer.Proofs.Store.Gate

/-!
# Cursors in a database

Cursor rows have been written from cursors, one row for each key, so that a cursor is always
read back. A commit is one transaction: either its cursor row moves and its change is written,
or the tables stay as they are.
-/

namespace StakingIndexer

namespace Tables

open StakingIndexer.Action Column

theorem meets_convert {α : Type} {I : Tables → Prop} (c : Converted α) :
    (convert c).Meets I fun _ => True := fun _ ht => ⟨ht, fun _ _ => trivial⟩

/-- Statements over other tables than the cursors. -/
def KeepsCursors {α : Type} (s : Statement α) : Prop :=
  ∀ rows, s.Meets (fun t => t.cursors = rows) fun _ => True

section KeepsCursors

theorem keepsCursors_modify {f : Tables → Tables} (h : ∀ t, (f t).cursors = t.cursors) :
    KeepsCursors (modify f : Statement Unit) :=
  fun _ => meets_modify fun t ht => (h t).trans ht

theorem keepsCursors_ensureAggregate (chain : Chain) : KeepsCursors (ensureAggregate chain) := by
  refine keepsCursors_modify fun t => ?_
  split_ifs <;> rfl

theorem keepsCursors_writeHolders (chain : Chain) (balances : AddressMap Amount) :
    KeepsCursors (writeHolders chain balances) := by
  intro rows
  unfold writeHolders
  extract_lets emptied
  refine Action.Meets.bind (keepsCursors_modify (fun _ => rfl) rows) fun _ _ => ?_
  exact (meets_convert _).bind fun _ _ => keepsCursors_modify (fun _ => rfl) rows

theorem keepsCursors_upsertLedger (record : LedgerRecord) : KeepsCursors (upsertLedger record) :=
  keepsCursors_modify fun _ => rfl

theorem keepsCursors_updateAggregate (chain : Chain)
    (f : AggregateRow → Converted AggregateRow) : KeepsCursors (updateAggregate chain f) := by
  intro rows
  refine meets_get.bind fun t ht => ?_
  refine (meets_mapM (fun r => meets_convert _) t.aggregates).bind fun _ _ => ?_
  exact meets_set ht

theorem keepsCursors_overwriteAggregate (chain : Chain) (columns : AggregateColumns) :
    KeepsCursors (overwriteAggregate chain columns) := by
  unfold overwriteAggregate
  split_ifs
  · exact fun _ => meets_pure trivial
  · exact keepsCursors_updateAggregate _ _

theorem keepsCursors_incrementAggregate (chain : Chain) (c : CounterIncrements) :
    KeepsCursors (incrementAggregate chain c) := by
  intro rows
  unfold incrementAggregate
  split_ifs
  · exact meets_pure trivial
  · refine (meets_convert _).bind fun _ _ => (meets_convert _).bind fun _ _ => ?_
    exact keepsCursors_updateAggregate _ _ rows

theorem keepsCursors_insertReports (rewards : List RewardRow) :
    KeepsCursors (insertReports rewards) := by
  intro rows
  refine (meets_mapM (fun r => meets_convert _) rewards).bind fun reports _ => ?_
  refine (meets_convert _).bind fun _ _ => keepsCursors_modify (fun t => ?_) rows
  induction reports generalizing t with
  | nil => rfl
  | cons r reports ih => exact ih _

theorem keepsCursors_upsertRelayLedger (record : RelayLedgerRecord) :
    KeepsCursors (upsertRelayLedger record) := by
  intro rows
  refine (meets_convert _).bind fun _ _ => (meets_convert _).bind fun _ _ => ?_
  exact keepsCursors_modify (fun _ => rfl) rows

theorem keepsCursors_replaceValidators (infos : List ValidatorsInfo) :
    KeepsCursors (replaceValidators infos) := by
  intro rows
  have hclear : KeepsCursors (modify fun t => { t with validators := [] } : Statement Unit) :=
    keepsCursors_modify fun _ => rfl
  refine (hclear rows).bind fun _ _ => (meets_convert _).bind fun _ _ => ?_
  refine (meets_forM (fun r => ?_) _).bind fun _ _ => ?_
  · exact (meets_convert _).bind fun _ _ => meets_forM (fun _ => meets_convert _) _
  · split_ifs
    · exact keepsCursors_modify (fun _ => rfl) rows
    · exact meets_throw _

theorem keepsCursors_writeDelta (delta : AggregateDelta) (columns : AggregateColumns) :
    KeepsCursors (writeDelta delta columns) := by
  intro rows
  refine (keepsCursors_ensureAggregate _ rows).bind fun _ _ => ?_
  refine (keepsCursors_overwriteAggregate _ _ rows).bind fun _ _ => ?_
  refine (keepsCursors_incrementAggregate _ _ rows).bind fun _ _ => ?_
  refine (keepsCursors_writeHolders _ _ rows).bind fun _ _ => ?_
  refine (keepsCursors_insertReports _ rows).bind fun _ _ => ?_
  refine (meets_forM (fun r => keepsCursors_upsertLedger r rows) _).bind fun _ _ => ?_
  refine (meets_forM (fun r => keepsCursors_upsertRelayLedger r rows) _).bind fun _ _ => ?_
  cases delta.validatorsInfo with
  | some infos => exact keepsCursors_replaceValidators infos rows
  | none => exact meets_pure trivial

end KeepsCursors

end Tables

namespace CursorRow

/-- The row of a cursor whose block is a signed word. -/
def write (c : ScanCursor) : CursorRow :=
  ⟨c.chain.name, c.target.name, c.block.toInt64, c.advancedAt⟩

def hasKey (chain : Chain) (target : TargetId) (r : CursorRow) : Bool :=
  r.chain = chain.name && r.target = target.name

theorem ofCursor_of_fits {c : ScanCursor} (h : Word.Fits c.block) : ofCursor c = .ok (write c) := by
  unfold ofCursor
  rw [Column.ofWord_of_fits h]
  rfl

theorem fits_of_ofCursor {c : ScanCursor} {r : CursorRow} (h : ofCursor c = .ok r) :
    Word.Fits c.block := by
  unfold ofCursor at h
  cases hword : Column.ofWord c.block with
  | error e => rw [hword] at h; cases h
  | ok i => exact (Column.ofWord_eq_ok hword).1

theorem toCursor_write {c : ScanCursor} (h : Word.Fits c.block) : (write c).toCursor = .ok c := by
  unfold toCursor write
  rw [Column.toChain_name, Column.toTarget_name, Column.toWord_toInt64 h]
  rfl

theorem hasKey_write {chain : Chain} {target : TargetId} {c : ScanCursor} :
    hasKey chain target (write c) ↔ c.chain = chain ∧ c.target = target := by
  simp [hasKey, write, Chain.name_inj, TargetId.name_inj]

def ofEntry (e : (Chain × TargetId) × ScanCursor) : CursorRow := write e.2

theorem hasKey_ofEntry {chain : Chain} {target : TargetId} {key : Chain × TargetId}
    {c : ScanCursor} (h : c.chain = key.1 ∧ c.target = key.2) :
    hasKey chain target (ofEntry (key, c)) = decide (key = (chain, target)) := by
  rw [Bool.eq_iff_iff, ofEntry, hasKey_write, decide_eq_true_eq, h.1, h.2, Prod.ext_iff]

end CursorRow

namespace Tables

open StakingIndexer.Action Column

def cursor (t : Tables) (chain : Chain) (target : TargetId) : Option ScanCursor :=
  (t.cursors.find? (CursorRow.hasKey chain target)).bind fun r => r.toCursor.toOption

/-- Cursor rows that have been written from cursors, one for each key. -/
structure CursorsStored (t : Tables) : Prop where
  rows : Tabulates CursorRow.ofEntry t.cursors fun key => t.cursor key.1 key.2
  keyed : ∀ chain target c, t.cursor chain target = some c →
    (c.chain = chain ∧ c.target = target) ∧ Word.Fits c.block

variable {t : Tables} {c : ScanCursor}

/-- Rows that are written from cursors under their own keys are read as these cursors. -/
theorem cursorsStored_of_tabulates {look : Chain × TargetId → Option ScanCursor}
    (h : Tabulates CursorRow.ofEntry t.cursors look)
    (hkeyed : ∀ chain target c, look (chain, target) = some c →
      (c.chain = chain ∧ c.target = target) ∧ Word.Fits c.block) :
    t.CursorsStored ∧ ∀ chain target, t.cursor chain target = look (chain, target) := by
  have hread : ∀ chain target, t.cursor chain target = look (chain, target) := by
    intro chain target
    rw [cursor, h.find?_eq fun key c hc => CursorRow.hasKey_ofEntry (hkeyed key.1 key.2 c hc).1]
    cases hlook : look (chain, target) with
    | none => rfl
    | some c =>
      rw [Option.map_some, Option.bind_some, CursorRow.ofEntry,
        CursorRow.toCursor_write (hkeyed chain target c hlook).2]
      rfl
  refine ⟨⟨?_, fun chain target c hc => hkeyed chain target c (hread chain target ▸ hc)⟩, hread⟩
  have hlook : look = fun key => t.cursor key.1 key.2 := funext fun key => (hread key.1 key.2).symm
  exact hlook ▸ h

theorem CursorsStored.loadCursor_eq (h : t.CursorsStored) (chain : Chain) (target : TargetId) :
    loadCursor chain target t = (.ok (t.cursor chain target), t) := by
  have hrow : loadCursor chain target t
      = (Option.mapM (fun r => convert r.toCursor)
          (t.cursors.find? (CursorRow.hasKey chain target)) : Statement _) t := rfl
  rw [hrow, h.rows.find?_eq fun key c hc =>
    CursorRow.hasKey_ofEntry (h.keyed key.1 key.2 c hc).1]
  cases hcursor : t.cursor chain target with
  | none => rfl
  | some c =>
    rw [Option.map_some, Option.mapM_some, map_eq, convert, CursorRow.ofEntry,
      CursorRow.toCursor_write (h.keyed chain target c hcursor).2]

/-- Whether the row of a cursor's key, if there is one, is behind the cursor. -/
def behind (t : Tables) (c : ScanCursor) : Bool :=
  t.cursors.all fun r => !CursorRow.hasKey c.chain c.target r || r.block < c.block.toInt64

def writeCursor (t : Tables) (c : ScanCursor) : Tables :=
  { t with cursors := upsert (CursorRow.hasKey c.chain c.target) (.write c) t.cursors }

theorem advanceCursor_eq (hfits : Word.Fits c.block) (t : Tables) :
    advanceCursor c t = if t.behind c then (.ok true, t.writeCursor c) else (.ok false, t) := by
  unfold advanceCursor
  rw [bind_eq, convert, CursorRow.ofCursor_of_fits hfits]
  change (if t.behind c then _ else _ : Statement Bool) t = _
  split_ifs <;> rfl

theorem advanceCursor_error (hfits : ¬ Word.Fits c.block) (t : Tables) :
    ∃ e, advanceCursor c t = (.error e, t) := by
  unfold advanceCursor
  rw [bind_eq, convert]
  cases hrow : CursorRow.ofCursor c with
  | error e => exact ⟨e, rfl⟩
  | ok row => exact absurd (CursorRow.fits_of_ofCursor hrow) hfits

namespace CursorsStored

variable (h : t.CursorsStored) (hfits : Word.Fits c.block)
include h hfits

theorem behind_iff :
    t.behind c ↔ ∀ stored, t.cursor c.chain c.target = some stored → stored.block < c.block := by
  unfold behind
  rw [List.all_eq_true]
  constructor
  · intro hall stored hstored
    obtain ⟨hkey, hsfits⟩ := h.keyed _ _ stored hstored
    have hlt := hall _ (h.rows.mem_iff.2 ⟨(c.chain, c.target), stored, hstored, rfl⟩)
    rw [CursorRow.ofEntry, CursorRow.hasKey_write.2 hkey] at hlt
    simpa [CursorRow.write, Word.toInt64_lt_iff hsfits hfits] using hlt
  · intro hstored r hr
    obtain ⟨key, d, hd, rfl⟩ := h.rows.mem_iff.1 hr
    obtain ⟨hdkey, hdfits⟩ := h.keyed _ _ d hd
    by_cases hkey : d.chain = c.chain ∧ d.target = c.target
    · rw [← hdkey.1, ← hdkey.2, hkey.1, hkey.2] at hd
      have hlt := hstored d hd
      simp [CursorRow.ofEntry, CursorRow.write, Word.toInt64_lt_iff hdfits hfits, hlt]
    · have hne := mt CursorRow.hasKey_write.1 hkey
      simp [CursorRow.ofEntry, hne]

theorem writeCursor : (t.writeCursor c).CursorsStored ∧ ∀ chain target,
    (t.writeCursor c).cursor chain target
      = if chain = c.chain ∧ target = c.target then some c else t.cursor chain target := by
  have hwritten : Tabulates CursorRow.ofEntry (t.writeCursor c).cursors _ :=
    h.rows.upsert (CursorRow.hasKey c.chain c.target) (k := (c.chain, c.target))
      (fun key d hd => CursorRow.hasKey_ofEntry (h.keyed key.1 key.2 d hd).1) c
  obtain ⟨hstored, hread⟩ := cursorsStored_of_tabulates hwritten fun chain target d hd => by
    rw [Function.update_apply] at hd
    split_ifs at hd with hkey
    · cases hd
      cases hkey
      exact ⟨⟨rfl, rfl⟩, hfits⟩
    · exact h.keyed chain target d hd
  refine ⟨hstored, fun chain target => ?_⟩
  simp only [hread, Function.update_apply, Prod.mk.injEq]

end CursorsStored

theorem CursorsStored.of_cursors {t' : Tables} (h : t.CursorsStored)
    (hcursors : t'.cursors = t.cursors) :
    t'.CursorsStored ∧ ∀ chain target, t'.cursor chain target = t.cursor chain target :=
  cursorsStored_of_tabulates (hcursors ▸ h.rows) h.keyed

/-- A commit writes its cursor and its change if the cursor's row is behind. -/
theorem commit_eq (hfits : Word.Fits c.block) (d : AggregateDelta) (columns : AggregateColumns)
    (t : Tables) : commit c d columns t
      = if t.behind c then match writeDelta d columns (t.writeCursor c) with
          | (.ok _, written) => (.ok .applied, written)
          | (.error e, _) => (.error e, t)
        else (.ok .alreadyApplied, t) := by
  unfold commit transaction
  rw [bind_eq, advanceCursor_eq hfits]
  split_ifs with hbehind
  · dsimp only
    rw [if_pos rfl, bind_eq]
    generalize writeDelta d columns (t.writeCursor c) = r
    obtain ⟨e | _, written⟩ := r <;> rfl
  · rfl

/-- A commit fails, finds its cursor at its block or beyond, or moves it. -/
theorem commit_cases (c : ScanCursor) (d : AggregateDelta) (columns : AggregateColumns)
    (t : Tables) :
    (∃ e, commit c d columns t = (.error e, t)) ∨
      Word.Fits c.block ∧ ¬ t.behind c ∧ commit c d columns t = (.ok .alreadyApplied, t) ∨
      Word.Fits c.block ∧ t.behind c ∧ ∃ t', commit c d columns t = (.ok .applied, t') ∧
        t'.cursors = (t.writeCursor c).cursors := by
  by_cases hfits : Word.Fits c.block
  · rw [commit_eq hfits]
    split_ifs with hbehind
    · have hkeeps := (keepsCursors_writeDelta d columns _ (t.writeCursor c) rfl).1
      generalize writeDelta d columns (t.writeCursor c) = r at hkeeps ⊢
      obtain ⟨e | _, t'⟩ := r
      · exact .inl ⟨e, rfl⟩
      · exact .inr (.inr ⟨hfits, hbehind, t', rfl, hkeeps⟩)
    · exact .inr (.inl ⟨hfits, hbehind, rfl⟩)
  · obtain ⟨e, he⟩ := advanceCursor_error hfits t
    refine .inl ⟨e, ?_⟩
    unfold commit transaction
    rw [bind_eq, he]

end Tables
end StakingIndexer
