import Mathlib
import StakingIndexer.Proofs.Relay.BlockContent
import StakingIndexer.Proofs.Relay.EraSearch
import StakingIndexer.Proofs.Relay.Records
import StakingIndexer.Scan.LocalNodes

/-!
# The remembered start of an era

The start of an era is searched for among the blocks of one era before a head, and remembered until
another era is asked for. Heads rise and eras do not fall, so that an era which was left is never
asked for again: what is remembered of an era is what the first successful call in it found, and
stays right when the start is out of the reach of later heads.
-/

namespace StakingIndexer

def BeginsAt (eras : UInt64 → UInt32) (era : UInt32) (start : UInt64) : Prop :=
  IsLeast {block | eras block = era} start

theorem exists_beginsAt {eras : UInt64 → UInt32} {era : UInt32} {head : UInt64}
    (h : eras head = era) : ∃ start, BeginsAt eras era start := by
  obtain ⟨start, hstart, hleast⟩ :=
    (measure UInt64.toNat).wf.has_min {block | eras block = era} ⟨head, h⟩
  refine ⟨start, hstart, fun block hblock => ?_⟩
  rw [UInt64.le_iff_toNat_le]
  exact Nat.le_of_not_lt (hleast block hblock)

/-- How the starts of eras are looked up: nodes that tell the eras where they answer, and a memory
that nothing else writes. -/
structure EraWorld (ω : Type) (eras : UInt64 → UInt32) where
  constants : ProtocolConstants
  sources : RelayStateTarget.Sources ω
  serves : ω → Prop
  connect_meets : ∀ known e, (sources.relay.connect e).Meets
    (fun w => serves w ∧ sources.knownStart w = known) fun _ => True
  era_meets : ∀ known e block, (Relay.activeEraIndex (sources.relay.api e) block).Meets
    (fun w => serves w ∧ sources.knownStart w = known) (· = eras block)
  keeps_setReader : ∀ r w, serves w → serves (sources.relay.setReader r w) ∧
    sources.knownStart (sources.relay.setReader r w) = sources.knownStart w
  serves_remember : ∀ start w, serves w → serves (sources.rememberStart start w)
  known_remember : ∀ start w, sources.knownStart (sources.rememberStart start w) = some start

/-- A call for the start of the era that is active at a head, and its answer. -/
structure EraCall where
  head : UInt64
  answer : Except ReadError UInt64

namespace EraWorld

variable {ω : Type} {eras : UInt64 → UInt32} (x : EraWorld ω eras)

def Holds (known : Option EraStart) (w : ω) : Prop := x.serves w ∧ x.sources.knownStart w = known

def eraAt (block : UInt64) : Action ω ReadError UInt32 :=
  x.sources.relay.read NodeLink.stateOp fun api => Relay.activeEraIndex api block

def startBlock (era : UInt32) (head : UInt64) : Action ω ReadError UInt64 :=
  RelayStateTarget.eraStartBlock x.constants x.sources era head

def reach (head : UInt64) : UInt64 := Word.satSub head x.constants.eraDurationInBlocks

/-- The search for the start of an era, with what it finds remembered. -/
def search (era : UInt32) (head : UInt64) : Action ω ReadError UInt64 := do
  let block ← Relay.findEraStart x.eraAt era (x.reach head) head
  modify (x.sources.rememberStart ⟨era, block⟩)
  return block

theorem reach_le (head : UInt64) : x.reach head ≤ head := by
  rw [reach, UInt64.le_iff_toNat_le, Word.toNat_satSub]
  exact Nat.sub_le _ _

theorem eraAt_meets (known : Option EraStart) (block : UInt64) :
    (x.eraAt block).Meets (x.Holds known) (· = eras block) := by
  refine Link.run_meets (x.connect_meets known) (fun r w hw => ?_)
    (fun e => x.era_meets known e block) NodeLink.stateOp
  obtain ⟨hserves, hknown⟩ := x.keeps_setReader r w hw.1
  exact ⟨hserves, hknown.trans hw.2⟩

variable {x} {w : ω} {era : UInt32} {head : UInt64}

theorem search_ok {block : UInt64} {t : ω}
    (h : Relay.findEraStart x.eraAt era (x.reach head) head w = (.ok block, t)) :
    x.search era head w = (.ok block, x.sources.rememberStart ⟨era, block⟩ t) := by
  rw [search, Action.bind_eq, h]
  rfl

theorem search_error {e : ReadError} {t : ω}
    (h : Relay.findEraStart x.eraAt era (x.reach head) head w = (.error e, t)) :
    x.search era head w = (.error e, t) := by
  rw [search, Action.bind_eq, h]

theorem startBlock_of_known {block : UInt64} (h : x.sources.knownStart w = some ⟨era, block⟩) :
    x.startBlock era head w = (.ok block, w) := by
  rw [startBlock, RelayStateTarget.eraStartBlock, Action.get_bind, h]
  dsimp only
  rw [if_pos rfl]
  rfl

theorem startBlock_of_unknown (h : ∀ block, x.sources.knownStart w ≠ some ⟨era, block⟩) :
    x.startBlock era head w = x.search era head w := by
  rw [startBlock, RelayStateTarget.eraStartBlock, Action.get_bind]
  cases hknown : x.sources.knownStart w with
  | none => rfl
  | some known =>
    have hne : known.era ≠ era := by
      rintro rfl
      exact h known.block hknown
    dsimp only
    rw [if_neg hne]
    rfl

/-- A search leaves what is remembered as it is, and what it finds in reach of the era's first
block is that block. -/
theorem findEraStart_exact (hgrow : ∀ block later, block ≤ later → eras block ≤ eras later)
    (hera : eras head = era) {known : Option EraStart} (hw : x.Holds known w) :
    x.Holds known (Relay.findEraStart x.eraAt era (x.reach head) head w).2 ∧
      ∀ block start, (Relay.findEraStart x.eraAt era (x.reach head) head w).1 = .ok block →
        BeginsAt eras era start → x.reach head ≤ start → block = start := by
  obtain ⟨calls, hsearch⟩ := Relay.search_findEraStart x.eraAt era (x.reach head) head w
  obtain ⟨hkept, htold⟩ := hsearch.answers (x.eraAt_meets known) hw
  refine ⟨hkept, fun block start hblock hstart hreach => ?_⟩
  rw [hblock] at hsearch
  have hhead : start ≤ head := hstart.2 hera
  obtain ⟨⟨hlow, hhigh, hreached⟩, hleast⟩ | ⟨rfl, hbehind⟩ := hsearch.isLeast (x.reach_le head)
    htold fun block later _ hle _ => hgrow block later hle
  · -- what is found is of the era, as no block up to the head is of a later one
    have hfound : eras block = era :=
      UInt32.le_antisymm (hera ▸ hgrow block head (UInt64.le_of_lt hhigh)) hreached
    have hle : start ≤ block := hstart.2 hfound
    refine UInt64.le_antisymm (hleast ⟨hreach, UInt64.lt_of_le_of_lt hle hhigh, ?_⟩) hle
    rw [hstart.1]
    exact UInt32.le_rfl
  · obtain hlt | rfl := UInt64.lt_or_eq_of_le hhead
    · have hearlier := hbehind start hreach hlt
      rw [hstart.1] at hearlier
      exact absurd hearlier (UInt32.lt_irrefl _)
    · rfl

/-- A call that fails leaves what is remembered as it is. -/
theorem startBlock_failed (hw : x.serves w) {e : ReadError}
    (hfailed : (x.startBlock era head w).1 = .error e) :
    x.Holds (x.sources.knownStart w) (x.startBlock era head w).2 := by
  by_cases hknown : ∃ block, x.sources.knownStart w = some ⟨era, block⟩
  · obtain ⟨block, hblock⟩ := hknown
    rw [startBlock_of_known hblock] at hfailed
    cases hfailed
  · rw [startBlock_of_unknown (not_exists.1 hknown)] at hfailed ⊢
    obtain ⟨calls, hsearch⟩ := Relay.search_findEraStart x.eraAt era (x.reach head) head w
    have hkept := (hsearch.answers (x.eraAt_meets _) ⟨hw, rfl⟩).1
    rcases hfound : Relay.findEraStart x.eraAt era (x.reach head) head w with ⟨e' | block, t⟩
    · rw [hfound] at hkept
      rw [search_error hfound]
      exact hkept
    · rw [search_ok hfound] at hfailed
      cases hfailed

variable (x)

/-- Calls at rising heads, each for the era that is active at its head, with whatever else happens
between them. -/
inductive Calls : List EraCall → ω → Prop
  | start {w : ω} (hserves : x.serves w) (hknown : x.sources.knownStart w = none) : Calls [] w
  | elsewhere {calls : List EraCall} {w w' : ω} (hcalls : Calls calls w) (hserves : x.serves w')
      (hknown : x.sources.knownStart w' = x.sources.knownStart w) : Calls calls w'
  | call {calls : List EraCall} {w : ω} (hcalls : Calls calls w) (head : UInt64)
      (hrising : ∀ call ∈ calls, call.head < head) :
      Calls (calls ++ [⟨head, (x.startBlock (eras head) head w).1⟩])
        (x.startBlock (eras head) head w).2

/-- The first call that succeeds in an era is made at a head that reaches back to the first block
of it. -/
def FirstInReach (calls : List EraCall) : Prop :=
  ∀ before call after block, calls = before ++ call :: after → call.answer = .ok block →
    (∀ earlier ∈ before, ∀ found, earlier.answer = .ok found →
      eras earlier.head ≠ eras call.head) →
    ∀ start, BeginsAt eras (eras call.head) start → x.reach call.head ≤ start

/-- What is remembered after calls is the start of the era of the last one that succeeded. -/
structure Remembers (calls : List EraCall) (w : ω) : Prop where
  serves : x.serves w
  exact : ∀ call ∈ calls, ∀ block, call.answer = .ok block → BeginsAt eras (eras call.head) block
  known : ∀ era block, x.sources.knownStart w = some ⟨era, block⟩ →
    BeginsAt eras era block ∧ ∃ call ∈ calls, eras call.head = era
  latest : ∀ call ∈ calls, ∀ block, call.answer = .ok block →
    ∃ known, x.sources.knownStart w = some known ∧ eras call.head ≤ known.era

variable {x} {calls : List EraCall}

theorem FirstInReach.init {call : EraCall} (h : x.FirstInReach (calls ++ [call])) :
    x.FirstInReach calls := by
  intro before first after block hcalls
  exact h before first (after ++ [call]) block (by rw [hcalls, List.append_assoc]; rfl)

namespace Remembers

theorem start (hserves : x.serves w) (hknown : x.sources.knownStart w = none) :
    x.Remembers [] w where
  serves := hserves
  exact call hcall := absurd hcall List.not_mem_nil
  known era block h := by cases hknown.symm.trans h
  latest call hcall := absurd hcall List.not_mem_nil

theorem elsewhere (h : x.Remembers calls w) {w' : ω} (hserves : x.serves w')
    (hknown : x.sources.knownStart w' = x.sources.knownStart w) : x.Remembers calls w' where
  serves := hserves
  exact := h.exact
  known := hknown ▸ h.known
  latest := hknown ▸ h.latest

theorem not_found (h : x.Remembers calls w)
    (hgrow : ∀ block later, block ≤ later → eras block ≤ eras later)
    (hrising : ∀ call ∈ calls, call.head < head)
    (hunknown : ∀ block, x.sources.knownStart w ≠ some ⟨eras head, block⟩) :
    ∀ call ∈ calls, ∀ block, call.answer = .ok block → eras call.head ≠ eras head := by
  intro call hcall block hblock hera
  obtain ⟨⟨era, start⟩, hknown, hle⟩ := h.latest call hcall block hblock
  obtain ⟨-, other, hother, rfl⟩ := h.known era start hknown
  have hge := hgrow other.head head (UInt64.le_of_lt (hrising other hother))
  have heq : eras other.head = eras head := UInt32.le_antisymm hge (hera ▸ hle)
  exact hunknown start (heq ▸ hknown)

theorem found (h : x.Remembers calls w)
    (hgrow : ∀ block later, block ≤ later → eras block ≤ eras later)
    (hrising : ∀ call ∈ calls, call.head < head) {block : UInt64} {t : ω} (hserves : x.serves t)
    (hblock : BeginsAt eras (eras head) block)
    (hknown : x.sources.knownStart t = some ⟨eras head, block⟩) :
    x.Remembers (calls ++ [⟨head, .ok block⟩]) t where
  serves := hserves
  exact call hcall found hfound := by
    obtain hcall | hcall := List.mem_append.1 hcall
    · exact h.exact call hcall found hfound
    · obtain rfl := List.mem_singleton.1 hcall
      cases hfound
      exact hblock
  known era start hstart := by
    cases hknown.symm.trans hstart
    exact ⟨hblock, _, List.mem_append_right calls (List.mem_singleton_self _), rfl⟩
  latest call hcall found hfound := by
    refine ⟨_, hknown, ?_⟩
    obtain hcall | hcall := List.mem_append.1 hcall
    · exact hgrow call.head head (UInt64.le_of_lt (hrising call hcall))
    · obtain rfl := List.mem_singleton.1 hcall
      exact UInt32.le_rfl

theorem failed (h : x.Remembers calls w) {e : ReadError} {t : ω} (hserves : x.serves t)
    (hknown : x.sources.knownStart t = x.sources.knownStart w) :
    x.Remembers (calls ++ [⟨head, .error e⟩]) t where
  serves := hserves
  exact call hcall block hblock := by
    obtain hcall | hcall := List.mem_append.1 hcall
    · exact h.exact call hcall block hblock
    · obtain rfl := List.mem_singleton.1 hcall
      cases hblock
  known era start hstart := by
    obtain ⟨hbegins, call, hcall, hera⟩ := h.known era start (hknown ▸ hstart)
    exact ⟨hbegins, call, List.mem_append_left _ hcall, hera⟩
  latest call hcall block hblock := by
    obtain hcall | hcall := List.mem_append.1 hcall
    · exact hknown ▸ h.latest call hcall block hblock
    · obtain rfl := List.mem_singleton.1 hcall
      cases hblock

theorem call (h : x.Remembers calls w)
    (hgrow : ∀ block later, block ≤ later → eras block ≤ eras later)
    (hrising : ∀ call ∈ calls, call.head < head)
    (hreach : x.FirstInReach (calls ++ [⟨head, (x.startBlock (eras head) head w).1⟩])) :
    x.Remembers (calls ++ [⟨head, (x.startBlock (eras head) head w).1⟩])
      (x.startBlock (eras head) head w).2 := by
  by_cases hknown : ∃ block, x.sources.knownStart w = some ⟨eras head, block⟩
  · obtain ⟨block, hblock⟩ := hknown
    rw [startBlock_of_known hblock]
    exact h.found hgrow hrising h.serves (h.known _ _ hblock).1 hblock
  · have hunknown := not_exists.1 hknown
    have hfirst := h.not_found hgrow hrising hunknown
    obtain ⟨⟨hserves, hkept⟩, hexact⟩ := findEraStart_exact hgrow rfl ⟨h.serves, rfl⟩
    rw [startBlock_of_unknown hunknown] at hreach ⊢
    rcases hfound : Relay.findEraStart x.eraAt (eras head) (x.reach head) head w
      with ⟨e | block, t⟩ <;> rw [hfound] at hserves hkept hexact
    · rw [search_error hfound]
      exact h.failed hserves hkept
    · rw [search_ok hfound] at hreach ⊢
      obtain ⟨start, hstart⟩ := exists_beginsAt (rfl : eras head = eras head)
      obtain rfl := hexact block start rfl hstart
        (hreach calls _ [] block rfl rfl hfirst start hstart)
      exact h.found hgrow hrising (x.serves_remember _ t hserves) hstart (x.known_remember _ t)

end Remembers

theorem remembers_of_calls (hgrow : ∀ block later, block ≤ later → eras block ≤ eras later)
    (h : x.Calls calls w) (hreach : x.FirstInReach calls) : x.Remembers calls w := by
  induction h with
  | start hserves hknown => exact .start hserves hknown
  | elsewhere _ hserves hknown ih => exact (ih hreach).elsewhere hserves hknown
  | call _ head hrising ih => exact (ih hreach.init).call hgrow hrising hreach

/-- If the first call that succeeds in an era reaches back to the first block of it, every call that
succeeds answers with that block, and a call that fails leaves what is remembered as it is. -/
theorem remembered_start_exact (hgrow : ∀ block later, block ≤ later → eras block ≤ eras later)
    (h : x.Calls calls w) (hreach : x.FirstInReach calls) :
    (∀ call ∈ calls, ∀ block, call.answer = .ok block → BeginsAt eras (eras call.head) block) ∧
      ∀ era head e, (x.startBlock era head w).1 = .error e →
        x.sources.knownStart (x.startBlock era head w).2 = x.sources.knownStart w := by
  have hremembers := remembers_of_calls hgrow h hreach
  refine ⟨hremembers.exact, fun era head e hfailed => ?_⟩
  exact (startBlock_failed hremembers.serves hfailed).2

end EraWorld

namespace Relay

def eraContent (era : UInt32) : Content := fun key =>
  if key = Place.activeEra.key then some (ActiveEra.codec.encode ⟨era, none⟩) else none

theorem read_eraContent (era : UInt32) :
    (eraContent era).read .activeEra = some ⟨era, none⟩ := by
  rw [Content.read, eraContent, if_pos rfl, Option.bind_some]
  change (ActiveEra.codec.decode (ActiveEra.codec.encode _)).map _ = _
  rw [ActiveEra.exact_codec.decode_encode trivial]
  rfl

variable {σ : Type}

/-- A node that shows every block, under its number for a hash, with its active era. -/
def chainOfEras (eras : UInt64 → UInt32) : Api σ := fun request =>
  pure (match request with
    | .blockHash block => .value (.string (toString block.toNat))
    | .storage key hash => .value ((hash.toNat?.bind fun block =>
        eraContent (eras (.ofNat block)) key).elim .null fun bs => .string (Bytes.toHex bs))
    | _ => .value .null)

theorem chainOfEras_showsBlock (eras : UInt64 → UInt32) (block : UInt64) (I : σ → Prop) :
    ShowsBlock (chainOfEras eras) I block (toString block.toNat) (eraContent (eras block)) where
  hashes w hw := ⟨hw, rfl⟩
  values key w hw := by
    have hnumber : (toString block.toNat).toNat? = some block.toNat := Nat.toNat?_repr _
    refine ⟨hw, _, rfl, ?_⟩
    rw [hnumber, Option.bind_some, UInt64.ofNat_toNat]
    cases eraContent (eras block) key with
    | none => exact .none
    | some bs => exact .some (Bytes.ofHex_toHex bs)

theorem activeEraIndex_chainOfEras (eras : UInt64 → UInt32) (block : UInt64) :
    activeEraIndex (chainOfEras eras) block
      = (pure (eras block) : Action σ Interruption UInt32) := by
  funext w
  have hyields : (activeEraIndex (chainOfEras eras) block).Yields (· = w) False (· = eras block) :=
    (chainOfEras_showsBlock eras block (· = w)).activeEraIndex_yields (read_eraContent _)
  obtain ⟨answer, hanswer, rfl⟩ := hyields.exists_ok not_false rfl
  exact Prod.ext hanswer (hyields w rfl).1

end Relay

namespace EraOutage

/-- The fifth block begins an era. -/
def eras (block : UInt64) : UInt32 := if block < 5 then 7 else 8

theorem eras_grow {block later : UInt64} (h : block ≤ later) : eras block ≤ eras later :=
  Relay.ite_lt_le_ite_lt (by decide) h

theorem eras_head {head : UInt64} (h : ¬ head < 5) : eras head = 8 := if_neg h

def link : NodeLink (LocalNodes MemoryStore) Relay.Request :=
  { LocalNodes.relayLink with api := fun _ => Relay.chainOfEras eras }

/-- Eras of four blocks at most are looked up. -/
def world : EraWorld (LocalNodes MemoryStore) eras where
  constants := { ProtocolConstants.standard with eraDurationInBlocks := 4 }
  sources := { LocalNodes.sources MemoryStore.store default with relay := link }
  serves _ := True
  connect_meets known e w hw := by
    change _ ∧ _ at hw
    unfold link LocalNodes.relayLink LocalNodes.connect
    dsimp only
    split_ifs <;> exact ⟨hw, fun _ _ => trivial⟩
  era_meets known e block := by
    change (Relay.activeEraIndex (Relay.chainOfEras eras) block).Meets _ _
    rw [Relay.activeEraIndex_chainOfEras]
    exact Action.meets_pure rfl
  keeps_setReader _ _ h := ⟨h, rfl⟩
  serves_remember _ _ h := h
  known_remember _ _ := rfl

def nodes (health : Health) : LocalNodes MemoryStore where
  parachain := ⟨.null, [], none, [], [], .ofNat 1, []⟩
  relay := ⟨.null, [], [], none, [], [], []⟩
  parachainReader :=
    .new ⟨.parachain, 60000, [⟨"ws://a", .healthy⟩], 0, Nat.one_pos, none⟩ ⟨5000, none, 10⟩
  relayReader :=
    .new ⟨.relayChain, 60000, [⟨"ws://b", health⟩], 0, Nat.one_pos, none⟩ ⟨5000, none, 10⟩
  refused := []
  hanging := []
  store := .empty
  publisher := .new ""
  eraStart := none

theorem eraAt_world :
    world.eraAt = fun block => link.run NodeLink.stateOp fun _ => pure (eras block) := by
  funext block
  change (link.run NodeLink.stateOp fun _ =>
    Relay.activeEraIndex (Relay.chainOfEras eras) block) = _
  rw [Relay.activeEraIndex_chainOfEras]

def outage : ReadError :=
  .unavailable .relayChain 0 (EndpointPoolError.exhausted .relayChain).message false

theorem eraAt_quarantined (block : UInt64) :
    world.eraAt block (nodes (.quarantined 1)) = (.error outage, nodes (.quarantined 1)) := by
  rw [eraAt_world]
  rfl

theorem startBlock_quarantined :
    world.startBlock 8 6 (nodes (.quarantined 1)) = (.error outage, nodes (.quarantined 1)) := by
  rw [EraWorld.startBlock_of_unknown fun _ => (Option.some_ne_none _).symm]
  apply EraWorld.search_error
  rw [Relay.findEraStart_open (by decide), eraAt_quarantined]

theorem findEraStart_healthy :
    (Relay.findEraStart world.eraAt 8 3 7 (nodes .healthy)).1 = .ok 5 := by
  rw [eraAt_world]
  cbv

theorem startBlock_healthy : ∃ w, world.startBlock 8 7 (nodes .healthy) = (.ok 5, w) ∧
    world.sources.knownStart w = some ⟨8, 5⟩ := by
  have hreach : world.reach 7 = 3 := by decide
  have hfound : Relay.findEraStart world.eraAt 8 (world.reach 7) 7 (nodes .healthy) = (.ok 5, _) :=
    Prod.ext (hreach ▸ findEraStart_healthy) rfl
  exact ⟨_, (EraWorld.startBlock_of_unknown fun _ => (Option.some_ne_none _).symm).trans
    (EraWorld.search_ok hfound), rfl⟩

theorem firstInReach :
    world.FirstInReach [⟨6, .error outage⟩, ⟨7, .ok 5⟩, ⟨12, .ok 5⟩] := by
  intro before call after block hcalls hanswer hearlier start hstart
  match before with
  | [] =>
    obtain ⟨rfl, -⟩ := List.cons.inj hcalls
    cases hanswer
  | [failed] =>
    obtain ⟨-, hcalls⟩ := List.cons.inj hcalls
    obtain ⟨rfl, -⟩ := List.cons.inj hcalls
    refine UInt64.not_lt.1 fun hlt => ?_
    have hseven : eras start = 7 := if_pos (UInt64.lt_trans hlt (by decide))
    exact absurd (hseven.symm.trans hstart.1) (by decide)
  | failed :: found :: more =>
    obtain ⟨-, hrest⟩ := List.cons.inj hcalls
    obtain ⟨rfl, hlast⟩ := List.cons.inj hrest
    have hcall : call ∈ more ++ call :: after := List.mem_append_right more List.mem_cons_self
    obtain rfl := List.mem_singleton.1 (hlast.symm.subst (motive := (call ∈ ·)) hcall)
    exact absurd rfl (hearlier ⟨7, .ok 5⟩ (by simp) 5 rfl)

end EraOutage

open EraOutage in
/-- A call fails while the endpoint is quarantined, the next one finds the start of the era, and a
later one whose reach begins behind it answers with it. -/
theorem EraWorld.remembered_start_exact_afterOutage :
    ∃ calls w, world.Calls calls w ∧ world.FirstInReach calls ∧
      calls = [⟨6, .error outage⟩, ⟨7, .ok 5⟩, ⟨12, .ok 5⟩] ∧
      5 < world.reach 12 ∧ BeginsAt eras 8 5 := by
  obtain ⟨w, hanswer, hknown⟩ := startBlock_healthy
  have hfirst : world.Calls [⟨6, .error outage⟩] (nodes (.quarantined 1)) := by
    have hcall := (Calls.start (x := world) (w := nodes (.quarantined 1)) trivial rfl).call 6
      fun call hcall => absurd hcall List.not_mem_nil
    rwa [eras_head (by decide), startBlock_quarantined] at hcall
  have hlifted : world.Calls [⟨6, .error outage⟩] (nodes .healthy) := hfirst.elsewhere trivial rfl
  have hsecond : world.Calls [⟨6, .error outage⟩, ⟨7, .ok 5⟩] w := by
    have hcall := hlifted.call 7 <| by
      rw [List.forall_mem_singleton]
      decide
    rwa [eras_head (by decide), hanswer] at hcall
  have hthird : world.Calls [⟨6, .error outage⟩, ⟨7, .ok 5⟩, ⟨12, .ok 5⟩] w := by
    have hcall := hsecond.call 12 <| by
      rw [List.forall_mem_cons, List.forall_mem_singleton]
      decide
    rwa [eras_head (by decide), startBlock_of_known hknown] at hcall
  refine ⟨_, w, hthird, firstInReach, rfl, by decide, ?_⟩
  obtain ⟨hexact, -⟩ := remembered_start_exact (fun _ _ => eras_grow) hthird firstInReach
  exact hexact ⟨12, .ok 5⟩ (by simp) 5 rfl

end StakingIndexer
