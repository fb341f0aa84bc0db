import Mathlib
import StakingIndexer.Proofs.Database.Frame
import StakingIndexer.Proofs.Reader.Frame
import StakingIndexer.Proofs.Relay.Ss58
import StakingIndexer.Proofs.Relay.StashViews
import StakingIndexer.Proofs.Store.Refinement
import StakingIndexer.Scan.ValidatorsInfoTarget

/-!
# Storing the validators of stashes

What is read about stashes is one record for each of them, and its texts are base58, which every
column can hold. The store in memory takes any set of records in place of the one before. The table
of the database has one row for a ledger: it takes a set unless two stashes are of one ledger, and
such a set is refused however often it is committed.
-/

namespace StakingIndexer

open StakingIndexer.Action

theorem Base58.plain_encode (bs : Bytes) : Column.Plain (encode bs) := by
  have hdigits : ∀ d ∈ ofBytes bs, d < 58 := fun d hd => lt_of_mem_numeral (by decide) hd
  have halphabet : '\x00' ∉ alphabet := by decide
  intro hzero
  rw [encode_eq, String.toList_ofList] at hzero
  obtain ⟨d, hd, hletter⟩ := List.mem_map.1 hzero
  exact halphabet (mem_alphabet_iff.2 ⟨d, hdigits d hd, hletter⟩)

theorem Ss58.encode_inj {key key' : AccountId} {format : UInt16} :
    encode key format = encode key' format ↔ key = key' := by
  constructor
  · intro h
    have hkeys := decode_encode key format
    rw [h, decode_encode key' format] at hkeys
    exact (Prod.mk.inj (Except.ok.inj hkeys)).1.symm
  · rintro rfl
    rfl

namespace Relay

/-- What a record says about its stash, whatever is stored. -/
structure Describes (format : UInt16) (l : StashLedger) (v : ValidatorsInfo) : Prop where
  ledger : v.ledger = l.ledger
  stash : v.stash = Ss58.encode l.stash format
  validators : ∀ text ∈ v.validators, ∃ key, text = Ss58.encode key format

section Reading

variable {σ α : Type}

theorem meets_any {ε : Type} (a : Action σ ε α) : a.Meets (fun _ => True) fun _ => True := by
  intro s _
  exact ⟨trivial, fun _ _ => trivial⟩

theorem BlockStorage.nominated_meets (s : BlockStorage σ) (l : StashLedger) (format : UInt16) :
    (s.nominated l format).Meets (fun _ => True) (Describes format l) := by
  unfold BlockStorage.nominated
  refine (meets_any _).bind fun bonded _ => ?_
  extract_lets rest
  have hrest : ∀ stake, Action.Meets (fun _ => True) (Describes format l) (rest stake) := by
    intro stake
    refine (meets_any _).bind fun nominations _ => meets_pure ⟨rfl, rfl, fun text htext => ?_⟩
    obtain ⟨key, -, hkey⟩ := List.mem_map.1 htext
    exact ⟨key, hkey.symm⟩
  cases bonded with
  | none => exact hrest none
  | some controller => exact (meets_any _).bind fun stake _ => hrest stake

/-- Whatever a node answers, there is a record for each stash, in their order. -/
theorem validatorsInfo_meets (api : Api σ) (stashes : List StashLedger) (format : UInt16)
    (block : UInt64) : (validatorsInfo api stashes format block).Meets (fun _ => True)
      (List.Forall₂ (Describes format) stashes) := by
  unfold validatorsInfo
  exact (meets_any _).bind fun s _ =>
    meets_sideBySide (fun l => s.nominated_meets l format) stashes

end Reading

variable {format : UInt16} {stashes : List StashLedger} {infos : List ValidatorsInfo}

theorem Describes.plain {l : StashLedger} {v : ValidatorsInfo} (h : Describes format l v) :
    Column.Plain v.stash ∧ ∀ w ∈ v.validators, Column.Plain w := by
  constructor
  · rw [h.stash]
    exact Base58.plain_encode _
  · intro w hw
    obtain ⟨key, rfl⟩ := h.validators w hw
    exact Base58.plain_encode _

theorem map_eq_of_describes {γ : Type} {f : ValidatorsInfo → γ} {g : StashLedger → γ}
    (hfg : ∀ l v, Describes format l v → f v = g l)
    (h : List.Forall₂ (Describes format) stashes infos) : infos.map f = stashes.map g := by
  induction h with
  | nil => rfl
  | cons hfirst _ ih => rw [List.map_cons, List.map_cons, hfg _ _ hfirst, ih]

theorem plain_of_describes (h : List.Forall₂ (Describes format) stashes infos) :
    ∀ v ∈ infos, Column.Plain v.stash ∧ ∀ w ∈ v.validators, Column.Plain w := by
  induction h with
  | nil => intro v hv; cases hv
  | cons hfirst _ ih =>
    intro v hv
    obtain rfl | hv := List.mem_cons.1 hv
    · exact hfirst.plain
    · exact ih v hv

end Relay

namespace ValidatorsInfoTarget

variable (state : AggregateState) (infos : List ValidatorsInfo)

theorem wordsFit_output : (output state infos).delta.WordsFit := by
  constructor <;> exact nofun

/-- Nothing of a set is written before its records, and nothing but these can fail. -/
theorem writeDelta_output (t : Tables) : ∃ u,
    Tables.writeDelta (output state infos).delta (.write (output state infos).delta) t
      = Tables.replaceValidators infos u := by
  have hcolumns : (AggregateColumns.write (output state infos).delta).isEmpty = true := rfl
  obtain ⟨u, hwrite⟩ :=
    Tables.writeDelta_of_noColumns (d := (output state infos).delta) hcolumns rfl t
  exact ⟨_, hwrite⟩

variable {infos}

/-- A set is written as a whole if one statement can write it and no ledger is repeated, and else
the database is as it was. -/
theorem commit_output
    (hplain : ∀ v ∈ infos, Column.Plain v.stash ∧ ∀ w ∈ v.validators, Column.Plain w)
    {db : Database} {c : ScanCursor} (hreachable : db.reachable = true)
    (hfits : Word.Fits c.block) (hbehind : db.tables.behind c) :
    if Tables.BindsFit 4 infos.length then
      if (infos.map (·.ledger)).Nodup then
        ∃ t, Database.store.commit c (output state infos).delta db
            = (.ok .applied, { db with tables := t }) ∧
          t.validators = infos.map ValidatorsRow.ofInfo
      else Database.store.commit c (output state infos).delta db
          = (.error (.database (.query "ledger is repeated")), db)
    else Database.store.commit c (output state infos).delta db
        = (.error (.database (.query "too many values for one statement")), db) := by
  obtain ⟨u, hwrite⟩ := writeDelta_output state infos (db.tables.writeCursor c)
  rw [Database.commit_of_words hreachable (wordsFit_output state infos), Tables.commit_eq hfits,
    if_pos hbehind, hwrite, Tables.replaceValidators_eq hplain]
  split_ifs
  · exact ⟨_, rfl, rfl⟩
  · rfl
  · rfl

/-- The records that are read of stashes, and what becomes of them: there is one for each stash, in
order. The store in memory takes every set. The database takes a set, and has just these records
afterwards, if one statement can write them and no two stashes are of one ledger; a greater set and
one with a repeated ledger fail, and the database stays as it was. -/
theorem output_committed_iff {σ : Type} {api : Relay.Api σ} {stashes : List StashLedger}
    {format : UInt16} {block : UInt64} {w : σ}
    (hread : (Relay.validatorsInfo api stashes format block w).1 = .ok infos)
    (state : AggregateState) :
    (infos.map (·.ledger) = stashes.map (·.ledger) ∧
      infos.map (·.stash) = stashes.map (fun l => Ss58.encode l.stash format) ∧
      ((stashes.map (·.stash)).Nodup → (infos.map (·.stash)).Nodup)) ∧
    (∀ (db : Database) (c : ScanCursor), db.reachable = true → Word.Fits c.block →
      db.tables.behind c →
        if Tables.BindsFit 4 stashes.length then
          if (stashes.map (·.ledger)).Nodup then
            ∃ db', Database.store.commit c (output state infos).delta db = (.ok .applied, db') ∧
              Database.connected Tables.loadValidators db' = (.ok infos, db')
          else Database.store.commit c (output state infos).delta db
              = (.error (.database (.query "ledger is repeated")), db)
        else Database.store.commit c (output state infos).delta db
            = (.error (.database (.query "too many values for one statement")), db)) ∧
    ∀ (s : MemoryStore) (c : ScanCursor), s.failingCommits = 0 → s.isNew c →
      ∃ s', MemoryStore.store.commit c (output state infos).delta s = (.ok .applied, s') ∧
        s'.validatorsInfo = infos := by
  have hdescribed := (Relay.validatorsInfo_meets api stashes format block w trivial).2 infos hread
  have hledgers : infos.map (·.ledger) = stashes.map (·.ledger) :=
    Relay.map_eq_of_describes (fun _ _ h => h.ledger) hdescribed
  have hstashes : infos.map (·.stash) = stashes.map (fun l => Ss58.encode l.stash format) :=
    Relay.map_eq_of_describes (fun _ _ h => h.stash) hdescribed
  refine ⟨⟨hledgers, hstashes, fun hdistinct => ?_⟩, ?_, ?_⟩
  · have htexts := hdistinct.map (f := fun key => Ss58.encode key format)
      fun _ _ => Ss58.encode_inj.1
    rw [List.map_map] at htexts
    rwa [hstashes]
  · intro db c hreachable hfits hbehind
    have hcommit := commit_output state (Relay.plain_of_describes hdescribed) hreachable hfits
      hbehind
    rw [← hledgers, hdescribed.length_eq]
    split_ifs with hbinds hnodup
    · rw [if_pos hbinds, if_pos hnodup] at hcommit
      obtain ⟨t, happlied, hrows⟩ := hcommit
      refine ⟨{ db with tables := t }, happlied, ?_⟩
      have hkept : { db with tables := t }.reachable = true := hreachable
      rw [Database.connected_of_reachable hkept, Tables.loadValidators_of_rows hrows]
    · rwa [if_pos hbinds, if_neg hnodup] at hcommit
    · rwa [if_neg hbinds] at hcommit
  · intro s c hready hnew
    have happlied := MemoryStore.commit_of_ready hready c (output state infos).delta
    rw [if_pos hnew] at happlied
    exact ⟨_, happlied, rfl⟩

end ValidatorsInfoTarget

namespace EmptyPallet

/-- No stash is bonded, and none nominates. -/
def content : Relay.Content := fun _ => none

def api : Relay.Api Unit := content.answers "0xb5"

theorem reads (stashes : List StashLedger) : (Relay.validatorsInfo api stashes 42 5 ()).1
    = .ok (stashes.map (content.info · 42)) := by
  have hreadable : content.StashesReadable :=
    ⟨fun _ => nofun, fun _ => nofun, fun _ => nofun, fun _ => nofun, nofun⟩
  have hyields : Action.Yields (fun _ => True) False _ _ :=
    (content.answers_showsBlock "0xb5" 5).validatorsInfo_yields hreadable stashes 42
  obtain ⟨infos, hinfos, rfl⟩ := hyields.exists_ok not_false (s := ()) trivial
  exact hinfos

def stashes (first second : Address) : List StashLedger :=
  [⟨.ofNat 1, first⟩, ⟨.ofNat 2, second⟩]

def cursor : ScanCursor := ⟨.relayChain, .validatorsInfo, 5, 100⟩

end EmptyPallet

open EmptyPallet in
/-- Two stashes of different ledgers are stored in both stores. -/
theorem ValidatorsInfoTarget.output_committed_iff_twoLedgers :
    ∃ infos, (Relay.validatorsInfo api (stashes .zero (.ofNat 1)) 42 5 ()).1 = .ok infos ∧
      (∃ db', Database.store.commit cursor (output (.empty .relayChain) infos).delta (.empty true)
          = (.ok .applied, db') ∧
        Database.connected Tables.loadValidators db' = (.ok infos, db')) ∧
      ∃ s', MemoryStore.store.commit cursor (output (.empty .relayChain) infos).delta .empty
          = (.ok .applied, s') ∧ s'.validatorsInfo = infos := by
  refine ⟨_, reads _, ?_⟩
  obtain ⟨-, hdatabase, hmemory⟩ :=
    output_committed_iff (reads (stashes .zero (.ofNat 1))) (.empty .relayChain)
  have hstored := hdatabase (.empty true) cursor rfl (by decide) rfl
  rw [if_pos (by decide), if_pos (by decide)] at hstored
  exact ⟨hstored, hmemory .empty cursor rfl rfl⟩

open EmptyPallet in
/-- Two stashes without a ledger have the zero address for it. Their records are stored in memory,
and the database refuses them each time. -/
theorem ValidatorsInfoTarget.zeroLedgers_refused :
    ((stashes .zero .zero).map (·.stash)).Nodup ∧
    ∃ infos, (Relay.validatorsInfo api (stashes .zero .zero) 42 5 ()).1 = .ok infos ∧
      Database.store.commit cursor (output (.empty .relayChain) infos).delta (.empty true)
          = (.error (.database (.query "ledger is repeated")), .empty true) ∧
      ∃ s', MemoryStore.store.commit cursor (output (.empty .relayChain) infos).delta .empty
          = (.ok .applied, s') ∧ s'.validatorsInfo = infos := by
  have hread := reads (stashes .zero .zero)
  have hmeets := Relay.validatorsInfo_meets api (stashes .zero .zero) 42 5
  have hdescribed := (hmeets () trivial).2 _ hread
  have hfits : Word.Fits cursor.block := by decide
  have hbehind : (Database.empty true).tables.behind cursor := rfl
  have hcommit := commit_output (.empty .relayChain) (Relay.plain_of_describes hdescribed) rfl hfits
    hbehind
  rw [if_pos (by decide), if_neg (by decide)] at hcommit
  exact ⟨by decide, _, hread, hcommit, _, rfl, rfl⟩

end StakingIndexer
