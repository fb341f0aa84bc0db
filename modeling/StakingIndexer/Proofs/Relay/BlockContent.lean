import Mathlib
import StakingIndexer.Proofs.Address
import StakingIndexer.Proofs.Reader.Answers
import StakingIndexer.Relay.Snapshot

/-!
# What is stored at a block

A node that shows a block answers with the bytes that are stored there. What is read through it is
therefore the value at its place, and reading fails on nothing but bytes that spell no value.
-/

namespace StakingIndexer
namespace Action

variable {σ ε α β : Type}

/-- An action that keeps an invariant, has results with a property, and fails only if `fails`. -/
def Yields (I : σ → Prop) (fails : Prop) (P : α → Prop) (a : Action σ ε α) : Prop :=
  ∀ s, I s → I (a s).2 ∧ ((∃ v, (a s).1 = .ok v ∧ P v) ∨ fails ∧ ∃ e, (a s).1 = .error e)

variable {I : σ → Prop} {fails : Prop} {P : α → Prop} {Q : β → Prop}

theorem yields_pure {v : α} (h : P v) : Yields I fails P (pure v : Action σ ε α) :=
  fun _ hs => ⟨hs, .inl ⟨v, rfl, h⟩⟩

theorem yields_throw (h : fails) (e : ε) : Yields I fails P (throw e : Action σ ε α) :=
  fun _ hs => ⟨hs, .inr ⟨h, e, rfl⟩⟩

theorem Yields.bind {a : Action σ ε α} {f : α → Action σ ε β} (ha : Yields I fails P a)
    (hf : ∀ v, P v → Yields I fails Q (f v)) : Yields I fails Q (a >>= f) := by
  intro s hs
  obtain ⟨hkept, hanswer⟩ := ha s hs
  rw [bind_eq]
  generalize a s = r at hkept hanswer ⊢
  obtain ⟨answer, t⟩ := r
  obtain ⟨v, rfl, hv⟩ | ⟨hfails, e, rfl⟩ := hanswer
  · exact hf v hv t hkept
  · exact ⟨hkept, .inr ⟨hfails, e, rfl⟩⟩

theorem yields_mapM {f : α → Action σ ε β} {g : α → β}
    (hf : ∀ a, Yields I fails (· = g a) (f a)) (l : List α) :
    Yields I fails (· = l.map g) (l.mapM f) := by
  induction l with
  | nil => exact yields_pure rfl
  | cons a l ih =>
    rw [List.mapM_cons]
    refine (hf a).bind fun b hb => ih.bind fun bs hbs => yields_pure ?_
    rw [hb, hbs, List.map_cons]

theorem Yields.of_ok {a : Action σ ε α} (ha : Yields I fails P a) {s : σ} (hs : I s) {v : α}
    (h : (a s).1 = .ok v) : P v := by
  obtain ⟨u, hu, hP⟩ | ⟨-, e, he⟩ := (ha s hs).2
  · exact Except.ok.inj (hu.symm.trans h) ▸ hP
  · cases he.symm.trans h

theorem Yields.exists_ok {a : Action σ ε α} (ha : Yields I fails P a) (hfails : ¬ fails) {s : σ}
    (hs : I s) : ∃ v, (a s).1 = .ok v ∧ P v :=
  (ha s hs).2.resolve_right fun h => hfails h.1

end Action

namespace Storage

theorem length_valueKey (pallet item : String) : (valueKey pallet item).length = 32 := by
  simp [valueKey, Hash.twox128]

/-- The first bytes of a key say where it belongs. -/
theorem valueKey_of_append_eq {pallet item pallet' item' : String} {rest rest' : Bytes}
    (h : valueKey pallet item ++ rest = valueKey pallet' item' ++ rest') :
    valueKey pallet item = valueKey pallet' item' :=
  List.append_inj_left h ((length_valueKey _ _).trans (length_valueKey _ _).symm)

end Storage

namespace Bytes

theorem dropHexMarks_toHexDigits (bs : Bytes) :
    dropHexMarks (toHexDigits bs) = toHexDigits bs := by
  unfold dropHexMarks
  split
  case h_1 rest hmarked =>
    have hmark : 'x' ∈ toHexDigits bs := by simp [hmarked]
    obtain ⟨n, hn, hdigit⟩ := exists_of_mem_toHexDigits hmark
    interval_cases n <;> cases hdigit
  case h_2 => rfl

theorem ofHex_toHex (bs : Bytes) : ofHex (toHex bs) = some bs := by
  unfold ofHex toHex
  rw [String.toList_ofList, dropHexMarks, dropHexMarks_toHexDigits, ofHexDigits_toHexDigits]

end Bytes

namespace Relay

open StakingIndexer.Action

/-- A place of the storage, and how what stands there is spelled. -/
structure Place (α : Type) where
  codec : Codec α
  key : Bytes

namespace Place

def activeEra : Place ActiveEra := ⟨ActiveEra.codec, Storage.valueKey "Staking" "ActiveEra"⟩

def eraStake (era : UInt32) : Place Balance :=
  ⟨Balance.codec, Storage.mapKey "Staking" "ErasTotalStake" .twox64Concat (Codec.u32.encode era)⟩

def bonded (stash : AccountId) : Place AccountId :=
  ⟨AccountId.codec, Storage.mapKey "Staking" "Bonded" .twox64Concat stash.bytes⟩

def ledger (controller : AccountId) : Place StakingLedger :=
  ⟨StakingLedger.codec, Storage.mapKey "Staking" "Ledger" .blake2b128Concat controller.bytes⟩

def nominations (account : AccountId) : Place Nominations :=
  ⟨Nominations.codec, Storage.mapKey "Staking" "Nominators" .twox64Concat account.bytes⟩

def sessionValidators : Place (List AccountId) :=
  ⟨.list AccountId.codec, Storage.valueKey "Session" "Validators"⟩

def totalIssuance : Place Balance := ⟨Balance.codec, Storage.valueKey "Balances" "TotalIssuance"⟩

def auctions : Place UInt32 := ⟨Codec.u32, Storage.valueKey "Auctions" "AuctionCounter"⟩

def timestamp : Place UInt64 := ⟨Codec.u64, Storage.valueKey "Timestamp" "Now"⟩

def account (a : AccountId) : Place AccountInfo :=
  ⟨AccountInfo.codec, Storage.mapKey "System" "Account" .blake2b128Concat a.bytes⟩

end Place

/-- What is stored at a block: bytes under keys. -/
abbrev Content := Bytes → Option Bytes

namespace Content

variable {α : Type} (c : Content)

/-- The value at a place, none also where bytes spell none. -/
def read (p : Place α) : Option α := (c p.key).bind fun bs => (p.codec.decode bs).map (·.1)

def Readable (p : Place α) : Prop := ∀ bs, c p.key = some bs → (p.codec.decode bs).isSome

variable {c}

theorem readable_of_read {p : Place α} {v : α} (h : c.read p = some v) : c.Readable p := by
  intro bs hstored
  rw [read, hstored, Option.bind_some] at h
  rw [← Option.isSome_map, h]
  rfl

end Content

theorem askFor_yields {σ α : Type} {api : Api σ} {I : σ → Prop} {fails : Prop} {P : α → Prop}
    {request : Request} {read : Json → Option α}
    (hreply : ∀ w, I w → I (api request w).2 ∧
      ∃ j v, (api request w).1 = .value j ∧ read j = some v ∧ P v) :
    (Rpc.askFor api read request).Yields I fails P := by
  intro w hw
  obtain ⟨hkept, j, v, hvalue, hread, hv⟩ := hreply w hw
  have hanswer : Rpc.askFor api read request w = (.ok v, (api request w).2) :=
    Rpc.askFor_value (Prod.ext hvalue rfl) hread
  rw [hanswer]
  exact ⟨hkept, .inl ⟨v, rfl, hv⟩⟩

/-- How a node answers with what stands under a key. -/
inductive Spells : Option Bytes → Json → Prop
  | none : Spells none .null
  | some {text : String} {bs : Bytes} (h : Bytes.ofHex text = some bs) :
    Spells (some bs) (.string text)

/-- A node, in the states of an invariant, shows a block and what is stored there. -/
structure ShowsBlock {σ : Type} (api : Api σ) (I : σ → Prop) (block : UInt64) (hash : String)
    (c : Content) : Prop where
  hashes : ∀ w, I w →
    I (api (.blockHash block) w).2 ∧ (api (.blockHash block) w).1 = .value (.string hash)
  values : ∀ key w, I w →
    I (api (.storage key hash) w).2 ∧
      ∃ j, (api (.storage key hash) w).1 = .value j ∧ Spells (c key) j

namespace ShowsBlock

variable {σ α : Type} {api : Api σ} {I : σ → Prop} {block : UInt64} {hash : String} {c : Content}
  (h : ShowsBlock api I block hash c) {fails : Prop}
include h

theorem atBlock_yields : (BlockStorage.atBlock api block).Yields I fails (· = ⟨api, hash⟩) := by
  have hhash : (blockHash api block).Yields I fails (· = hash) := by
    refine (askFor_yields (P := (· = some hash)) fun w hw => ?_).bind fun answer hanswer => ?_
    · obtain ⟨hkept, hvalue⟩ := h.hashes w hw
      exact ⟨hkept, .string hash, some hash, hvalue, rfl, rfl⟩
    · subst hanswer
      exact yields_pure rfl
  refine hhash.bind fun found hfound => yields_pure ?_
  rw [hfound]

theorem rawStorage_yields (key : Bytes) :
    (rawStorage api hash key).Yields I fails (· = c key) := by
  refine (askFor_yields (P := fun text => text.map Bytes.ofHex = (c key).map some)
    fun w hw => ?_).bind fun answer hanswer => ?_
  · obtain ⟨hkept, j, hvalue, hspells⟩ := h.values key w hw
    generalize c key = stored at hspells
    cases hspells with
    | none => exact ⟨hkept, .null, none, hvalue, rfl, rfl⟩
    | @some text bs hhex => exact ⟨hkept, .string text, some text, hvalue, rfl, congrArg some hhex⟩
  · cases answer with
    | none => exact yields_pure (Option.map_eq_none_iff.1 hanswer.symm).symm
    | some text =>
      obtain ⟨bs, hstored, hhex⟩ := Option.map_eq_some_iff.1 hanswer.symm
      dsimp only
      rw [← hhex]
      exact yields_pure hstored.symm

/-- What is read is what stands at the place, and reading fails only where that is unreadable. -/
theorem storage_yields {p : Place α} (hp : ¬ c.Readable p → fails) :
    (storage api hash p.codec p.key).Yields I fails (· = c.read p) := by
  refine (h.rawStorage_yields p.key).bind fun stored hstored => ?_
  cases stored with
  | none => exact yields_pure (by rw [Content.read, ← hstored]; rfl)
  | some bs =>
    dsimp only
    cases hdecode : p.codec.decode bs with
    | some v =>
      refine yields_pure ?_
      rw [Content.read, ← hstored, Option.bind_some, hdecode]
      rfl
    | none =>
      refine yields_throw (hp fun hreadable => ?_) _
      have hsome := hreadable bs hstored.symm
      rw [hdecode] at hsome
      cases hsome

theorem getD_yields {p : Place α} (hp : ¬ c.Readable p → fails) (default : α) :
    Yields I fails (· = (c.read p).getD default) (do
      return (← storage api hash p.codec p.key).getD default) := by
  refine (h.storage_yields hp).bind fun value hvalue => yields_pure ?_
  rw [hvalue]

theorem activeEraIndex_yields {era : ActiveEra} (hera : c.read .activeEra = some era) :
    (activeEraIndex api block).Yields I fails (· = era.index) := by
  unfold activeEraIndex
  refine h.atBlock_yields.bind fun s hs => ?_
  subst hs
  refine (h.storage_yields (p := .activeEra) (absurd (Content.readable_of_read hera))).bind
    fun found hfound => ?_
  rw [hera] at hfound
  subst hfound
  exact yields_pure rfl

end ShowsBlock

def Content.answers (c : Content) (hash : String) : Api Unit := fun request =>
  pure (match request with
    | .blockHash _ => .value (.string hash)
    | .storage key _ => .value ((c key).elim .null fun bs => .string (Bytes.toHex bs))
    | _ => .value .null)

theorem Content.answers_showsBlock (c : Content) (hash : String) (block : UInt64) :
    ShowsBlock (c.answers hash) (fun _ => True) block hash c where
  hashes _ _ := ⟨trivial, rfl⟩
  values key w _ := by
    refine ⟨trivial, (c key).elim .null fun bs => .string (Bytes.toHex bs), rfl, ?_⟩
    cases c key with
    | none => exact .none
    | some bs => exact .some (Bytes.ofHex_toHex bs)

end Relay
end StakingIndexer
