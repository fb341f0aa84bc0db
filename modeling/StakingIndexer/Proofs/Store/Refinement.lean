import Mathlib
import StakingIndexer.Proofs.Database.Frame
import StakingIndexer.Proofs.Database.Reports
import StakingIndexer.Proofs.Store.CommitOnce

/-!
# The database refines the store in memory

As long as the columns can hold what is committed, the database does with a commit what the store
in memory does, and holds the same contents afterwards. Columns hold words below half of their
range, amounts, and texts without a character of code zero. Beyond that the stores part: where
the one saturates or keeps every text, the other fails.
-/

namespace StakingIndexer

/-- Whether no text of a change holds a character of code zero. -/
@[mk_iff] structure AggregateDelta.Plain (d : AggregateDelta) : Prop where
  relayLedgers : ∀ r ∈ d.relayLedgers, Column.Plain r.stash
  validators : ∀ infos ∈ d.validatorsInfo, ∀ v ∈ infos,
    Column.Plain v.stash ∧ ∀ w ∈ v.validators, Column.Plain w

instance (d : AggregateDelta) : Decidable d.Plain :=
  decidable_of_iff _ (AggregateDelta.plain_iff d).symm

/-- Whether the columns have room for what a commit makes of a state, texts apart. -/
@[mk_iff] structure AggregateState.HasRoom (s : AggregateState) (c : ScanCursor)
    (d : AggregateDelta) : Prop where
  block : Word.Fits c.block
  counts : s.Counts d.counters
  reports : ∀ r ∈ d.rewardRows, Word.Fits r.block
  relayWords : ∀ r ∈ d.relayLedgers, r.Fits
  ledgers : d.chain = .relayChain → d.ledgers = []
  relayLedgers : d.chain = .parachain → d.relayLedgers = []
  validators : ∀ infos ∈ d.validatorsInfo, (infos.map (·.ledger)).Nodup

instance (s : AggregateState) (c : ScanCursor) (d : AggregateDelta) : Decidable (s.HasRoom c d) :=
  decidable_of_iff _ (AggregateState.hasRoom_iff s c d).symm

def StoreMove.ofPair {φ : Type} (x : ScanCursor × AggregateDelta) : StoreMove φ :=
  .commit x.1 x.2

namespace MemoryStore

/-- Whether a commit can be stored in columns, texts apart. What it replaces is converted even if
the commit is refused. -/
@[mk_iff] structure Storable (s : MemoryStore) (c : ScanCursor) (d : AggregateDelta) : Prop where
  words : d.WordsFit
  room : s.isNew c → (s.aggregate d.chain).HasRoom c d

instance (s : MemoryStore) (c : ScanCursor) (d : AggregateDelta) : Decidable (s.Storable c d) :=
  decidable_of_iff _ (storable_iff s c d).symm

/-- Whether a condition holds of every commit, and of the store at which it arrives. -/
def Throughout (P : MemoryStore → ScanCursor → AggregateDelta → Prop) :
    MemoryStore → List (ScanCursor × AggregateDelta) → Prop
  | _, [] => True
  | s, (c, d) :: rest => P s c d ∧ Throughout P (commit c d s).2 rest

instance decidableThroughout (P : MemoryStore → ScanCursor → AggregateDelta → Prop)
    [∀ s c d, Decidable (P s c d)] (s : MemoryStore) :
    (l : List (ScanCursor × AggregateDelta)) → Decidable (Throughout P s l)
  | [] => inferInstanceAs (Decidable True)
  | (c, d) :: rest =>
    have := decidableThroughout P (commit c d s).2 rest
    inferInstanceAs (Decidable (P s c d ∧ Throughout P (commit c d s).2 rest))

def contents (s : MemoryStore) : Contents where
  states chain := (s.aggregates.get chain).map AggregateState.core
  holders chain := (s.aggregate chain).holderBalances
  ledgers := (s.aggregate .parachain).ledgers
  relayLedgers := (s.aggregate .relayChain).relayLedgers
  rewards := s.rewards
  validators := s.validatorsInfo

/-- A state that holds nothing but what a database reads for its chain. -/
structure OfChain (chain : Chain) (s : AggregateState) : Prop where
  chain_eq : s.chain = chain
  ledgers : chain = .relayChain → s.ledgers = .empty
  relayLedgers : chain = .parachain → s.relayLedgers = .empty
  recentRewards : s.recentRewards = .empty

theorem ofChain_empty (chain : Chain) : OfChain chain (.empty chain) :=
  ⟨rfl, fun _ => rfl, fun _ => rfl, rfl⟩

theorem OfChain.applyDelta {s : AggregateState} {d : AggregateDelta} (h : OfChain d.chain s)
    (hledgers : d.chain = .relayChain → d.ledgers = [])
    (hrelay : d.chain = .parachain → d.relayLedgers = []) :
    OfChain d.chain (s.applyDelta d) where
  chain_eq := h.chain_eq
  ledgers hchain := by
    rw [AggregateState.applyDelta_eq, hledgers hchain]
    exact h.ledgers hchain
  relayLedgers hchain := by
    rw [AggregateState.applyDelta_eq, hrelay hchain]
    exact h.relayLedgers hchain
  recentRewards := h.recentRewards

/-- A store whose states are as they are read from a database, and that is not told to fail. -/
structure Proper (s : MemoryStore) : Prop where
  failingCommits : s.failingCommits = 0
  ofChain : ∀ chain st, s.aggregates.get chain = some st → OfChain chain st

theorem proper_empty : empty.Proper where
  failingCommits := rfl
  ofChain chain st h := by cases chain <;> cases h

namespace Proper

variable {s : MemoryStore} (h : s.Proper)
include h

theorem aggregate (chain : Chain) : OfChain chain (s.aggregate chain) := by
  unfold MemoryStore.aggregate
  cases hstate : s.aggregates.get chain with
  | none => exact ofChain_empty chain
  | some st => exact h.ofChain chain st hstate

theorem apply {c : ScanCursor} {d : AggregateDelta}
    (hledgers : d.chain = .relayChain → d.ledgers = [])
    (hrelay : d.chain = .parachain → d.relayLedgers = []) : (s.apply c d).Proper where
  failingCommits := h.failingCommits
  ofChain chain st hst := by
    change (s.aggregates.set d.chain _).get chain = some st at hst
    rw [PerChain.get_set] at hst
    split_ifs at hst with hchain
    · subst hchain
      cases hst
      exact (h.aggregate d.chain).applyDelta hledgers hrelay
    · exact h.ofChain chain st hst

theorem state_contents (chain : Chain) : s.contents.state chain = s.aggregates.get chain := by
  change ((s.aggregates.get chain).map _).map _ = _
  cases hstate : s.aggregates.get chain with
  | none => rfl
  | some st =>
    have hstored : s.aggregate chain = st := by rw [MemoryStore.aggregate, hstate, Option.getD_some]
    obtain ⟨hchain, hledgers, hrelay, hrecent⟩ := h.ofChain chain st hstate
    rw [Option.map_some, Option.map_some]
    congr 1
    cases chain with
    | parachain =>
      have hrelay := hrelay rfl
      change ({ st.core.core with
        chain := .parachain
        holderBalances := (s.aggregate .parachain).holderBalances
        ledgers := (s.aggregate .parachain).ledgers } : AggregateState) = st
      rw [hstored]
      cases st
      subst hchain hrelay hrecent
      rfl
    | relayChain =>
      have hledgers := hledgers rfl
      change ({ st.core.core with
        chain := .relayChain
        holderBalances := (s.aggregate .relayChain).holderBalances
        relayLedgers := (s.aggregate .relayChain).relayLedgers } : AggregateState) = st
      rw [hstored]
      cases st
      subst hchain hledgers hrecent
      rfl

end Proper

theorem before_contents (s : MemoryStore) (chain : Chain) :
    s.contents.before chain = (s.aggregate chain).core := by
  change ((s.aggregates.get chain).map _).getD _ = ((s.aggregates.get chain).getD _).core
  cases s.aggregates.get chain <;> rfl

/-- A change is written to the contents as it is applied to the state. -/
theorem contents_apply (s : MemoryStore) (c : ScanCursor) {d : AggregateDelta}
    (hledgers : d.chain = .relayChain → d.ledgers = [])
    (hrelay : d.chain = .parachain → d.relayLedgers = []) :
    (s.apply c d).contents = s.contents.write d := by
  have hstates : (s.apply c d).contents.states = (s.contents.write d).states := by
    funext chain
    rw [Contents.states_write, before_contents]
    change ((s.apply c d).aggregates.get chain).map _ = _
    rw [aggregates_apply]
    split_ifs with hchain
    · rw [hchain]
      rfl
    · rfl
  have hholders : (s.apply c d).contents.holders = (s.contents.write d).holders := by
    funext chain
    rw [Contents.holders_write]
    change ((s.apply c d).aggregate chain).holderBalances = _
    rw [aggregate_apply_eq]
    split_ifs with hchain
    · rw [hchain]
      rfl
    · rfl
  have hparachain : (s.apply c d).contents.ledgers = (s.contents.write d).ledgers := by
    change ((s.apply c d).aggregate .parachain).ledgers
      = d.ledgers.foldl _ (s.aggregate .parachain).ledgers
    rw [aggregate_apply_eq]
    split_ifs with hchain
    · rfl
    · have hother : d.chain = .relayChain := by cases hd : d.chain <;> simp_all
      rw [hledgers hother, List.foldl_nil]
  have hrelayChain : (s.apply c d).contents.relayLedgers = (s.contents.write d).relayLedgers := by
    change ((s.apply c d).aggregate .relayChain).relayLedgers
      = d.relayLedgers.foldl _ (s.aggregate .relayChain).relayLedgers
    rw [aggregate_apply_eq]
    split_ifs with hchain
    · rfl
    · have hother : d.chain = .parachain := by cases hd : d.chain <;> simp_all
      rw [hrelay hother, List.foldl_nil]
  exact Contents.ext hstates hholders hparachain hrelayChain rfl rfl

theorem accepts_contents {s : MemoryStore} {c : ScanCursor} {d : AggregateDelta}
    (hwords : d.WordsFit) (hroom : (s.aggregate d.chain).HasRoom c d) (hbinds : d.Bindable)
    (hplain : d.Plain) : s.contents.Accepts d where
  words := hwords
  counts := by
    rw [before_contents]
    exact hroom.counts.core
  binds := hbinds
  blocks := hroom.reports
  relayLedgers r hr := ⟨hroom.relayWords r hr, hplain.relayLedgers r hr⟩
  validators infos hinfos := ⟨hroom.validators infos hinfos, hplain.validators infos hinfos⟩

end MemoryStore

namespace Database

theorem connected_of_reachable {α : Type} {db : Database} (h : db.reachable = true)
    (a : Statement α) :
    connected a db = ((a db.tables).1, { db with tables := (a db.tables).2 }) := by
  rw [connected, if_pos h]
  rfl

theorem commit_of_words {db : Database} {d : AggregateDelta} (h : db.reachable = true)
    (hwords : d.WordsFit) (c : ScanCursor) : store.commit c d db
      = ((Tables.commit c d (.write d) db.tables).1.mapError .database,
        { db with tables := (Tables.commit c d (.write d) db.tables).2 }) := by
  change (Database.commit c d).mapError StoreError.database db = _
  unfold Action.mapError Database.commit
  rw [AggregateColumns.ofDelta_of_fits hwords]
  dsimp only
  rw [connected_of_reachable h]

/-- A database that can be reached and stores what a store in memory stores. -/
structure Stores (db : Database) (s : MemoryStore) : Prop where
  reachable : db.reachable = true
  cursorsStored : db.tables.CursorsStored
  cursor : ∀ chain target, db.tables.cursor chain target = s.cursor chain target
  contents : db.tables.Holds s.contents
  proper : s.Proper

theorem stores_empty : (empty true).Stores .empty where
  reachable := rfl
  cursorsStored := cursorsStored_empty
  cursor chain target := by cases chain <;> cases target <;> rfl
  contents := by
    have hcontents : MemoryStore.empty.contents = .empty := by
      refine Contents.ext (funext fun chain => ?_) (funext fun chain => ?_) rfl rfl rfl rfl <;>
        cases chain <;> rfl
    rw [hcontents]
    exact Tables.holds_empty
  proper := MemoryStore.proper_empty

namespace Stores

variable {db : Database} {s : MemoryStore} {c : ScanCursor} {d : AggregateDelta} (h : db.Stores s)
include h

theorem connected_eq {α : Type} (a : Statement α) :
    connected a db = ((a db.tables).1, { db with tables := (a db.tables).2 }) :=
  connected_of_reachable h.reachable a

theorem isNew_iff : s.isNew c ↔ ∀ stored, db.tables.cursor c.chain c.target = some stored →
    stored.block < c.block := by
  rw [s.isNew_iff, h.cursor]

/-- A commit that is refused does not exceed a stored cursor, and is a signed word as this is. -/
theorem fits_of_not_isNew (hnew : ¬ s.isNew c) : Word.Fits c.block := by
  rw [h.isNew_iff] at hnew
  push Not at hnew
  obtain ⟨stored, hstored, hle⟩ := hnew
  have hfits := (h.cursorsStored.keyed _ _ stored hstored).2
  have hle := UInt64.le_iff_toNat_le.1 (UInt64.not_lt.1 hle)
  unfold Word.Fits at hfits ⊢
  omega

theorem commit_new (hs : s.Storable c d) (hnew : s.isNew c) (hbinds : d.Bindable)
    (hplain : d.Plain) :
    ∃ t, Tables.commit c d (.write d) db.tables = (.ok .applied, t) ∧
      { db with tables := t }.Stores (s.apply c d) := by
  have hroom := hs.room hnew
  have hbehind := (h.cursorsStored.behind_iff hroom.block).2 (h.isNew_iff.1 hnew)
  have hmoved := h.contents.of_cursors (db.tables.writeCursor c).cursors
  obtain ⟨v, t, hwrite, ht⟩ :=
    hmoved.writeDelta (MemoryStore.accepts_contents hs.words hroom hbinds hplain)
  have hwrite : Tables.writeDelta d (.write d) (db.tables.writeCursor c) = (.ok v, t) := hwrite
  have hkeeps := (Tables.keepsCursors_writeDelta d (.write d) _ (db.tables.writeCursor c) rfl).1
  rw [hwrite] at hkeeps
  obtain ⟨hwritten, hread⟩ := h.cursorsStored.writeCursor hroom.block
  obtain ⟨hstored, hsame⟩ := hwritten.of_cursors hkeeps
  refine ⟨t, ?_, h.reachable, hstored, fun chain target => ?_, ?_, ?_⟩
  · rw [Tables.commit_eq hroom.block, if_pos hbehind, hwrite]
  · rw [MemoryStore.cursor_apply, ← h.cursor]
    exact (hsame chain target).trans (hread chain target)
  · rw [MemoryStore.contents_apply s c hroom.ledgers hroom.relayLedgers]
    exact ht
  · exact h.proper.apply hroom.ledgers hroom.relayLedgers

/-- A commit has the same outcome in both stores, and they agree afterwards. -/
theorem commit (hs : s.Storable c d) (hbinds : s.isNew c → d.Bindable)
    (hplain : s.isNew c → d.Plain) :
    ∃ outcome db' s', store.commit c d db = (.ok outcome, db') ∧
      MemoryStore.store.commit c d s = (.ok outcome, s') ∧ db'.Stores s' := by
  have hdb := commit_of_words h.reachable hs.words c
  have hmemory : MemoryStore.store.commit c d s = _ :=
    MemoryStore.commit_of_ready h.proper.failingCommits c d
  rw [hdb, hmemory]
  by_cases hnew : s.isNew c
  · obtain ⟨t, ht, hstores⟩ := h.commit_new hs hnew (hbinds hnew) (hplain hnew)
    rw [ht, if_pos hnew]
    exact ⟨.applied, _, _, rfl, rfl, hstores⟩
  · have hfits := h.fits_of_not_isNew hnew
    have hbehind := mt (h.cursorsStored.behind_iff hfits).1 (mt h.isNew_iff.2 hnew)
    rw [Tables.commit_eq hfits, if_neg hbehind, if_neg hnew]
    exact ⟨.alreadyApplied, _, _, rfl, rfl, h⟩

theorem run {commits : List (ScanCursor × AggregateDelta)}
    (hs : MemoryStore.Throughout MemoryStore.Storable s commits)
    (hbinds : MemoryStore.Throughout (fun s c d => s.isNew c → d.Bindable) s commits)
    (hplain : MemoryStore.Throughout (fun s c d => s.isNew c → d.Plain) s commits) :
    faulty.submissions db (commits.map .ofPair)
        = MemoryStore.faulty.submissions s (commits.map .ofPair) ∧
      (∀ x ∈ MemoryStore.faulty.submissions s (commits.map .ofPair), ∃ o, x.outcome = .ok o) ∧
      (faulty.run db (commits.map .ofPair)).Stores
        (MemoryStore.faulty.run s (commits.map .ofPair)) := by
  induction commits generalizing db s with
  | nil => exact ⟨rfl, fun x hx => (by cases hx), h⟩
  | cons x commits ih =>
    obtain ⟨c, d⟩ := x
    obtain ⟨outcome, db', s', hdb, hmemory, hstores⟩ := h.commit hs.1 hbinds.1 hplain.1
    have hs' : (MemoryStore.commit c d s).2 = s' := congrArg Prod.snd hmemory
    obtain ⟨hsubmissions, houtcomes, hlast⟩ :=
      ih hstores (hs' ▸ hs.2) (hs' ▸ hbinds.2) (hs' ▸ hplain.2)
    have hfirst : faulty.submissions db ((c, d) :: commits |>.map .ofPair)
        = ⟨c, d, .ok outcome⟩ :: faulty.submissions db' (commits.map .ofPair) := by
      change ⟨c, d, (store.commit c d db).1⟩ :: faulty.submissions (store.commit c d db).2 _ = _
      rw [hdb]
    have hfirst' : MemoryStore.faulty.submissions s ((c, d) :: commits |>.map .ofPair)
        = ⟨c, d, .ok outcome⟩ :: MemoryStore.faulty.submissions s' (commits.map .ofPair) := by
      change ⟨c, d, (MemoryStore.store.commit c d s).1⟩ ::
        MemoryStore.faulty.submissions (MemoryStore.store.commit c d s).2 _ = _
      rw [hmemory]
    refine ⟨?_, fun x hx => ?_, ?_⟩
    · rw [hfirst, hfirst', hsubmissions]
    · rw [hfirst'] at hx
      rcases List.mem_cons.1 hx with rfl | hx
      · exact ⟨outcome, rfl⟩
      · exact houtcomes x hx
    · change (faulty.run (store.commit c d db).2 _).Stores
        (MemoryStore.faulty.run (MemoryStore.store.commit c d s).2 _)
      rw [hdb, hmemory]
      exact hlast

end Stores

/-- Whether a database answers what a store in memory answers. The newest reports of a
ledger are by descending block, and those of one block newest first. -/
structure Agrees (db : Database) (s : MemoryStore) : Prop where
  cursors : ∀ chain target, (store.loadCursor chain target db).1.map (Option.map (·.block))
    = (MemoryStore.store.loadCursor chain target s).1.map (Option.map (·.block))
  states : ∀ chain, (store.loadState chain db).1 = (MemoryStore.store.loadState chain s).1
  validators : ∃ infos, (connected Tables.loadValidators db).1 = .ok infos ∧
    infos.Perm s.validatorsInfo
  recentRewards : ∀ (limit : Nat) (ledger : Address), limit ≤ Int64.maxValue.toInt →
    (store.recentRewards limit db).1.map (List.filter (·.ledger == ledger))
        = .ok ((MemoryStore.ledgerRewards s.rewards ledger).take limit) ∧
      (MemoryStore.store.recentRewards limit s).1.map (List.filter (·.ledger == ledger))
        = .ok ((MemoryStore.ledgerRewards s.rewards ledger).take limit)

theorem Stores.agrees {db : Database} {s : MemoryStore} (h : db.Stores s) : db.Agrees s where
  cursors chain target := by
    change ((connected (Tables.loadCursor chain target) db).1.mapError StoreError.database).map _
      = _
    rw [h.connected_eq, h.cursorsStored.loadCursor_eq, h.cursor]
    rfl
  states chain := by
    change (connected (Tables.loadState chain) db).1.mapError StoreError.database = _
    rw [h.connected_eq, h.contents.loadState, h.proper.state_contents]
    rfl
  validators := by
    rw [h.connected_eq, h.contents.loadValidators]
    exact ⟨_, rfl, .refl _⟩
  recentRewards limit ledger hlimit := by
    obtain ⟨rows, hrows, hledger⟩ := h.contents.recentReports hlimit
    constructor
    · change ((connected (Tables.recentReports limit) db).1.mapError StoreError.database).map _ = _
      rw [h.connected_eq, hrows]
      exact congrArg Except.ok (hledger ledger)
    · exact congrArg Except.ok (s.filter_recentRewards limit ledger)

end Database

/-- The database has the outcomes of the store in memory and answers what it answers, whatever is
committed, as long as the columns have room, one statement for each table can write a change, and
the texts are plain. -/
theorem database_refines_memory (commits : List (ScanCursor × AggregateDelta))
    (hstorable : MemoryStore.Throughout MemoryStore.Storable .empty commits)
    (hbinds : MemoryStore.Throughout (fun s c d => s.isNew c → d.Bindable) .empty commits)
    (hplain : MemoryStore.Throughout (fun s c d => s.isNew c → d.Plain) .empty commits) :
    Database.faulty.submissions (.empty true) (commits.map .ofPair)
        = MemoryStore.faulty.submissions .empty (commits.map .ofPair) ∧
      (∀ x ∈ MemoryStore.faulty.submissions .empty (commits.map .ofPair), ∃ o, x.outcome = .ok o) ∧
      (Database.faulty.run (.empty true) (commits.map .ofPair)).Agrees
        (MemoryStore.faulty.run .empty (commits.map .ofPair)) := by
  obtain ⟨hsubmissions, houtcomes, hstores⟩ := Database.stores_empty.run hstorable hbinds hplain
  exact ⟨hsubmissions, houtcomes, hstores.agrees⟩

/-- A deposit that is committed twice, and then the validators of a ledger. -/
def depositCommits : List (ScanCursor × AggregateDelta) :=
  let deposit : ScanCursor × AggregateDelta :=
    (⟨.parachain, .events, 7, 100⟩,
      { chain := .parachain
        counters := { deposited := .ofUInt64 5, depositedCount := 1 }
        scalars := { lastBlockWithEvents := some 7 }
        holderBalances := .ofList [(.zero, .ofUInt64 5)]
        holdersNumber := some 1
        rewardRows := [⟨.zero, .zero, .ofUInt64 9, 7⟩] })
  [deposit, deposit,
    (⟨.relayChain, .validatorsInfo, 3, 101⟩,
      { chain := .relayChain, validatorsInfo := some [⟨.zero, "stash", .ofUInt64 9, ["v"]⟩] })]

theorem database_refines_memory_deposit :
    (MemoryStore.Throughout MemoryStore.Storable .empty depositCommits ∧
      MemoryStore.Throughout (fun s c d => s.isNew c → d.Bindable) .empty depositCommits ∧
      MemoryStore.Throughout (fun s c d => s.isNew c → d.Plain) .empty depositCommits) ∧
    Database.faulty.submissions (.empty true) (depositCommits.map .ofPair)
        = MemoryStore.faulty.submissions .empty (depositCommits.map .ofPair) ∧
      (∀ x ∈ MemoryStore.faulty.submissions .empty (depositCommits.map .ofPair),
        ∃ o, x.outcome = .ok o) ∧
      (Database.faulty.run (.empty true) (depositCommits.map .ofPair)).Agrees
        (MemoryStore.faulty.run .empty (depositCommits.map .ofPair)) := by
  have hstorable : MemoryStore.Throughout MemoryStore.Storable .empty depositCommits := by
    decide +kernel
  have hbinds : MemoryStore.Throughout (fun s c d => s.isNew c → d.Bindable) .empty
      depositCommits := by
    decide +kernel
  have hplain : MemoryStore.Throughout (fun s c d => s.isNew c → d.Plain) .empty
      depositCommits := by
    decide +kernel
  exact ⟨⟨hstorable, hbinds, hplain⟩,
    database_refines_memory depositCommits hstorable hbinds hplain⟩

/-- A commit of one record whose stash is a character of code zero. -/
def nulCommit : ScanCursor × AggregateDelta :=
  (⟨.relayChain, .validatorsInfo, 1, 100⟩,
    { chain := .relayChain, validatorsInfo := some [⟨.zero, "\x00", .ofUInt64 9, []⟩] })

/-- A commit that changes nothing, and one of the same cursor that replaces a word which is not
signed. -/
def staleCommits : List (ScanCursor × AggregateDelta) :=
  [(⟨.relayChain, .relayState, 1, 100⟩, { chain := .relayChain }),
    (⟨.relayChain, .relayState, 1, 100⟩,
      { chain := .relayChain, scalars := { relayActiveEraId := some (2 ^ 63) } })]

/-- A commit of more reports than one statement can write. -/
def manyReports : ScanCursor × AggregateDelta :=
  (⟨.parachain, .events, 1, 100⟩,
    { chain := .parachain, rewardRows := .replicate 16384 ⟨.zero, .zero, .zero, 1⟩ })

theorem blocks_manyReports : ∀ r ∈ manyReports.2.rewardRows, Word.Fits r.block := by
  intro r hr
  rw [List.eq_of_mem_replicate hr]
  decide

theorem Tables.writeDelta_manyReports (t : Tables) : ∃ u,
    writeDelta manyReports.2 (.write manyReports.2) t
      = (.error (.query "too many values for one statement"), u) := by
  have hbinds : ¬ BindsFit 4 manyReports.2.rewardRows.length := by
    rw [manyReports, List.length_replicate]
    decide
  have hcolumns : (AggregateColumns.write manyReports.2).isEmpty = true := rfl
  obtain ⟨u, hwrite⟩ := writeDelta_of_noColumns (d := manyReports.2) hcolumns rfl t
  obtain ⟨v, hholders⟩ : ∃ v, writeHolders .parachain .empty u = (.ok (), v) := ⟨_, rfl⟩
  refine ⟨v, hwrite.trans ((bind_of_ok hholders).trans ?_)⟩
  rw [Action.bind_eq, insertReports_error blocks_manyReports hbinds]

def outcomes (submissions : List Submission) : List (Except StoreError CommitOutcome) :=
  submissions.map (·.outcome)

theorem outcomes_single {σ φ κ : Type} (g : FaultyStore σ φ κ) (s : σ)
    (x : ScanCursor × AggregateDelta) :
    outcomes (g.submissions s ([x].map .ofPair)) = [(g.commit x.1 x.2 s).1] := rfl

/-- A text that is not plain is kept in memory and fails in the database, which also fails at more
reports than one statement can write, and at a word that a refused commit would replace. -/
theorem nulCommit_manyReports_staleCommits_fail :
    (MemoryStore.Throughout MemoryStore.Storable .empty [nulCommit] ∧
      outcomes (MemoryStore.faulty.submissions .empty ([nulCommit].map .ofPair))
        = [.ok .applied] ∧
      outcomes (Database.faulty.submissions (.empty true) ([nulCommit].map .ofPair))
        = [.error (.database (.query "text holds a character of code zero"))]) ∧
    (MemoryStore.Throughout MemoryStore.Storable .empty [manyReports] ∧
      MemoryStore.Throughout (fun s c d => s.isNew c → d.Plain) .empty [manyReports] ∧
      outcomes (MemoryStore.faulty.submissions .empty ([manyReports].map .ofPair))
        = [.ok .applied] ∧
      outcomes (Database.faulty.submissions (.empty true) ([manyReports].map .ofPair))
        = [.error (.database (.query "too many values for one statement"))]) ∧
    MemoryStore.Throughout (fun s c d => s.isNew c → d.WordsFit ∧
        (s.aggregate d.chain).HasRoom c d ∧ d.Bindable ∧ d.Plain) .empty staleCommits ∧
      outcomes (MemoryStore.faulty.submissions .empty (staleCommits.map .ofPair))
        = [.ok .applied, .ok .alreadyApplied] ∧
      outcomes (Database.faulty.submissions (.empty true) (staleCommits.map .ofPair))
        = [.ok .applied,
          .error (.database (.conversion "number too large to fit in target type"))] := by
  refine ⟨⟨by decide +kernel, rfl, by decide +kernel⟩, ⟨⟨⟨?_, fun _ => ?_⟩, trivial⟩, ?_, ?_, ?_⟩,
    by decide +kernel, rfl, by decide +kernel⟩
  · decide
  · exact ⟨by decide, by decide, blocks_manyReports, by decide, by decide, by decide, by decide⟩
  · exact ⟨fun _ => by decide, trivial⟩
  · rfl
  · have hbehind : (Database.empty true).tables.behind manyReports.1 = true := rfl
    obtain ⟨u, hwrite⟩ := Tables.writeDelta_manyReports
      ((Database.empty true).tables.writeCursor manyReports.1)
    have hcommit : Database.store.commit manyReports.1 manyReports.2 (.empty true) = _ :=
      Database.commit_of_words rfl (by decide) manyReports.1
    rw [Tables.commit_eq (by decide), if_pos hbehind, hwrite] at hcommit
    rw [outcomes_single, show Database.faulty.commit = Database.store.commit from rfl, hcommit]
    rfl

end StakingIndexer
