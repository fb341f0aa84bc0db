import Mathlib
import StakingIndexer.Proofs.Relay.StashViews

/-!
# The figures of a stake

The record of a ledger takes its balances from the stake of the stash's controller, and what is
unlocking from the stake that is stored under the stash itself. They are figures of one stake just
when the stash is its own controller, or the two stakes have the same parts unlocking.
-/

namespace StakingIndexer

namespace UnlockingChunk

def total (chunks : List UnlockingChunk) : Nat := (chunks.map (·.value.toNat)).sum

/-- The least era of unlocking parts, zero without any. -/
def IsEarliest (chunks : List UnlockingChunk) (era : Nat) : Prop :=
  chunks = [] ∧ era = 0 ∨ IsLeast {e | ∃ chunk ∈ chunks, chunk.era.toNat = e} era

theorem toNat_foldl_satAdd (chunks : List UnlockingChunk) (start : Balance) :
    (chunks.foldl (fun sum chunk => sum.satAdd chunk.value) start).toNat
      = min (start.toNat + total chunks) (Balance.size - 1) := by
  induction chunks generalizing start with
  | nil =>
    have hlt := start.toNat_lt
    exact (Nat.min_eq_left (Nat.le_sub_one_of_lt hlt)).symm
  | cons chunk chunks ih =>
    rw [List.foldl_cons, ih, Balance.toNat_satAdd, total, total, List.map_cons, List.sum_cons]
    omega

end UnlockingChunk

namespace StakingLedger

theorem toNat_totalUnlocking (l : StakingLedger) :
    l.totalUnlocking.toNat = min (UnlockingChunk.total l.unlocking) (Balance.size - 1) := by
  rw [totalUnlocking, UnlockingChunk.toNat_foldl_satAdd, Balance.zero, Nat.zero_add]

theorem isEarliest_earliestUnlockingEra (l : StakingLedger) :
    UnlockingChunk.IsEarliest l.unlocking l.earliestUnlockingEra.toNat := by
  unfold earliestUnlockingEra
  cases hmin : (l.unlocking.map (·.era)).min? with
  | none => exact .inl ⟨List.map_eq_nil_iff.1 (List.min?_eq_none_iff.1 hmin), rfl⟩
  | some era =>
    obtain ⟨hmem, hleast⟩ := List.min?_eq_some_iff.1 hmin
    obtain ⟨chunk, hchunk, rfl⟩ := List.mem_map.1 hmem
    refine .inr ⟨⟨chunk, hchunk, rfl⟩, ?_⟩
    rintro e ⟨other, hother, rfl⟩
    exact UInt32.le_iff_toNat_le.1 (hleast _ (List.mem_map_of_mem hother))

end StakingLedger

namespace Relay

open StakingIndexer.Action UnlockingChunk

namespace Content

variable (c : Content)

/-- The parts that unlock of the stake that is stored under an account, none without one. -/
def unlocking (account : AccountId) : List UnlockingChunk :=
  (c.read (.ledger account)).elim [] StakingLedger.unlocking

variable {c} {l : StashLedger} (format : UInt16)

/-- What is unlocking is read under the stash, whoever is the controller. -/
theorem unlocking_record :
    (c.record l format).totalUnlockingBalance.toNat
        = min (total (c.unlocking l.stash)) (Balance.size - 1) ∧
      IsEarliest (c.unlocking l.stash) (c.record l format).earliestEraForUnlocking.toNat := by
  have hown : (c.record l format).totalUnlockingBalance
        = ((c.read (.ledger l.stash)).elim .zero StakingLedger.totalUnlocking).toAmount ∧
      (c.record l format).earliestEraForUnlocking
        = ((c.read (.ledger l.stash)).elim 0 StakingLedger.earliestUnlockingEra).toUInt64 := by
    unfold record
    cases c.read (.bonded l.stash) <;> exact ⟨rfl, rfl⟩
  rw [hown.1, hown.2, unlocking]
  cases c.read (.ledger l.stash) with
  | none => exact ⟨rfl, .inl ⟨rfl, rfl⟩⟩
  | some own => exact ⟨own.toNat_totalUnlocking, own.isEarliest_earliestUnlockingEra⟩

variable {controller : AccountId} {stake : StakingLedger}

/-- The balances are read under the controller. -/
theorem balances_record (hbonded : c.read (.bonded l.stash) = some controller)
    (hstake : c.read (.ledger controller) = some stake) :
    (c.record l format).activeBalance = stake.active.toAmount ∧
      (c.record l format).totalBalance = stake.total.toAmount := by
  unfold record
  rw [hbonded]
  dsimp only
  rw [hstake]
  exact ⟨rfl, rfl⟩

end Content

/-- The record of a bonded stash with a stake, whatever is stored and whichever node shows it. Its
balances are those of the controller's stake. What is unlocking is what is stored under the stash,
so it is of the same stake if the stash is its own controller; otherwise the balances of a stake
that adds up add up in the record only if as much is unlocking under the stash. -/
theorem relayLedger_figures {σ : Type} {api : Api σ} {I : σ → Prop} {block : UInt64}
    {hash : String} {c : Content} (h : ShowsBlock api I block hash c) (hc : c.StashesReadable)
    {l : StashLedger} {controller : AccountId} {stake : StakingLedger} (format : UInt16)
    (hbonded : c.read (.bonded l.stash) = some controller)
    (hstake : c.read (.ledger controller) = some stake) :
    ∃ r : RelayLedgerRecord,
      (∀ w, I w → (BlockStorage.relayLedger ⟨api, hash⟩ l ((c.read .sessionValidators).getD [])
        format w).1 = .ok r) ∧
      r.activeBalance = stake.active.toAmount ∧
      r.totalBalance = stake.total.toAmount ∧
      r.totalUnlockingBalance.toNat
        = min (total (c.unlocking l.stash)) (Balance.size - 1) ∧
      IsEarliest (c.unlocking l.stash) r.earliestEraForUnlocking.toNat ∧
      (controller = l.stash →
        r.totalUnlockingBalance = stake.totalUnlocking.toAmount ∧
        r.earliestEraForUnlocking = stake.earliestUnlockingEra.toUInt64) ∧
      (stake.total.toNat = stake.active.toNat + total stake.unlocking →
        (r.totalBalance.toNat = r.activeBalance.toNat + r.totalUnlockingBalance.toNat ↔
          min (total (c.unlocking l.stash)) (Balance.size - 1)
            = total stake.unlocking)) := by
  obtain ⟨hactive, htotal⟩ := Content.balances_record format hbonded hstake
  obtain ⟨hunlocking, hearliest⟩ := Content.unlocking_record (c := c) (l := l) format
  refine ⟨c.record l format, fun w hw => ?_, hactive, htotal, hunlocking, hearliest, ?_,
    fun hsum => ?_⟩
  · obtain ⟨r, hr, rfl⟩ := (h.relayLedger_yields hc l format).exists_ok not_false hw
    exact hr
  · rintro rfl
    rw [Content.record, hbonded, hstake]
    exact ⟨rfl, rfl⟩
  · rw [hactive, htotal, hunlocking]
    change stake.total.toNat = stake.active.toNat + _ ↔ _
    omega

namespace BondedStake

abbrev stash : AccountId := .ofNat 1

def stake : StakingLedger := ⟨stash, .clampNat 10, .clampNat 7, [⟨.clampNat 3, 12⟩]⟩

/-- The stash is bonded to a controller, who holds the stake, and nothing else is stored. -/
def content (controller : AccountId) : Content := fun key =>
  if key = (Place.bonded stash).key then some controller.bytes
  else if key = (Place.ledger controller).key then some (StakingLedger.codec.encode stake)
  else none

variable {controller : AccountId}

theorem decode_stake :
    StakingLedger.codec.decode (StakingLedger.codec.encode stake) = some (stake, []) :=
  StakingLedger.exact_codec.decode_encode (by decide)

theorem bonded_ne_ledger :
    Storage.valueKey "Staking" "Bonded" ≠ Storage.valueKey "Staking" "Ledger" := by
  decide +kernel

theorem readable {α : Type} {p : Place α} {pallet item : String} {rest : Bytes}
    (hkey : p.key = Storage.valueKey pallet item ++ rest)
    (hbonded : Storage.valueKey pallet item = Storage.valueKey "Staking" "Bonded" →
      (p.codec.decode controller.bytes).isSome)
    (hledger : Storage.valueKey pallet item = Storage.valueKey "Staking" "Ledger" →
      (p.codec.decode (StakingLedger.codec.encode stake)).isSome) :
    (content controller).Readable p := by
  intro bs hstored
  unfold content at hstored
  split_ifs at hstored with hsame hsame
  · obtain rfl := Option.some.inj hstored
    exact hbonded (Storage.valueKey_of_append_eq (hkey.symm.trans hsame))
  · obtain rfl := Option.some.inj hstored
    exact hledger (Storage.valueKey_of_append_eq (hkey.symm.trans hsame))

theorem stashesReadable : (content controller).StashesReadable where
  bonded _ := by
    refine readable rfl (fun _ => ?_) (absurd · bonded_ne_ledger)
    exact Option.isSome_iff_exists.2 ⟨_, AccountId.exact_codec.decode_encode trivial⟩
  ledger _ := by
    refine readable rfl (absurd · bonded_ne_ledger.symm) fun _ => ?_
    exact Option.isSome_iff_exists.2 ⟨_, decode_stake⟩
  nominations _ := readable rfl (absurd · (by decide +kernel)) (absurd · (by decide +kernel))
  account _ := readable rfl (absurd · (by decide +kernel)) (absurd · (by decide +kernel))
  sessionValidators := readable (List.append_nil _).symm (absurd · (by decide +kernel))
    (absurd · (by decide +kernel))

theorem read_bonded : (content controller).read (.bonded stash) = some controller := by
  rw [Content.read, content, if_pos rfl, Option.bind_some]
  exact congrArg (Option.map _) (AccountId.exact_codec.decode_encode trivial)

theorem read_ledger : (content controller).read (.ledger controller) = some stake := by
  have hne : (Place.ledger controller).key ≠ (Place.bonded stash).key := fun hsame =>
    bonded_ne_ledger (Storage.valueKey_of_append_eq hsame).symm
  rw [Content.read, content, if_neg hne, if_pos rfl, Option.bind_some]
  exact congrArg (Option.map _) decode_stake

theorem unlocking_other : (content (.ofNat 2)).unlocking stash = [] := by
  have hnone : content (.ofNat 2) (Place.ledger stash).key = none := by
    refine (if_neg ?_).trans (if_neg ?_) <;> decide +kernel
  rw [Content.unlocking, Content.read, hnone]
  rfl

end BondedStake

open BondedStake in
/-- A stash that is its own controller. -/
theorem relayLedger_figures_ownController :
    (content stash).StashesReadable ∧
    (content stash).read (.bonded stash) = some stash ∧
    (content stash).read (.ledger stash) = some stake ∧
    ∃ r, (BlockStorage.relayLedger ⟨(content stash).answers "0x01", "0x01"⟩ ⟨stash, .ofNat 7⟩
        (((content stash).read .sessionValidators).getD []) 42 ()).1 = .ok r ∧
      (r.activeBalance.toNat, r.totalUnlockingBalance.toNat, r.totalBalance.toNat) = (7, 3, 10) ∧
      r.earliestEraForUnlocking = 12 := by
  have hbonded : (content stash).read (.bonded stash) = some stash := read_bonded
  have hstake : (content stash).read (.ledger stash) = some stake := read_ledger
  obtain ⟨r, hr, hactive, htotal, -, -, hown, -⟩ :=
    relayLedger_figures (l := ⟨stash, .ofNat 7⟩) ((content stash).answers_showsBlock "0x01" 1)
      stashesReadable 42 hbonded hstake
  obtain ⟨hunlocking, hearliest⟩ := hown rfl
  refine ⟨stashesReadable, hbonded, hstake, r, hr () trivial, ?_, hearliest⟩
  rw [hactive, hunlocking, htotal]
  rfl

open BondedStake in
/-- Another controller holds the stake: three of ten are unlocking from an era on, while the record
tells of seven active ones out of ten and of nothing that is unlocking. -/
theorem relayLedger_mixes_stakes :
    (content (.ofNat 2)).read (.bonded stash) = some (.ofNat 2) ∧
    (content (.ofNat 2)).read (.ledger (.ofNat 2)) = some stake ∧
    stake.total.toNat = stake.active.toNat + total stake.unlocking ∧
    stake.totalUnlocking.toNat = 3 ∧ stake.earliestUnlockingEra = 12 ∧
    ∃ r, (BlockStorage.relayLedger ⟨(content (.ofNat 2)).answers "0x01", "0x01"⟩
        ⟨stash, .ofNat 7⟩ (((content (.ofNat 2)).read .sessionValidators).getD []) 42
        ()).1 = .ok r ∧
      (r.activeBalance.toNat, r.totalUnlockingBalance.toNat, r.totalBalance.toNat) = (7, 0, 10) ∧
      r.earliestEraForUnlocking = 0 := by
  have hbonded : (content (.ofNat 2)).read (.bonded stash) = some (.ofNat 2) := read_bonded
  have hstake : (content (.ofNat 2)).read (.ledger (.ofNat 2)) = some stake := read_ledger
  have hnode := (content (.ofNat 2)).answers_showsBlock "0x01" 1
  obtain ⟨r, hr, hrecord⟩ :=
    (hnode.relayLedger_yields stashesReadable ⟨stash, .ofNat 7⟩ 42).exists_ok not_false trivial
  obtain ⟨hactive, htotal⟩ :=
    Content.balances_record (l := ⟨stash, .ofNat 7⟩) 42 hbonded hstake
  obtain ⟨hunlocking, hearliest⟩ :=
    Content.unlocking_record (c := content (.ofNat 2)) (l := ⟨stash, .ofNat 7⟩) 42
  rw [← hrecord] at hactive htotal hunlocking hearliest
  rw [unlocking_other] at hunlocking hearliest
  refine ⟨hbonded, hstake, by decide, by decide, rfl, r, hr, ?_, ?_⟩
  · rw [hactive, hunlocking, htotal]
    rfl
  · obtain ⟨-, hzero⟩ | ⟨⟨chunk, hchunk, -⟩, -⟩ := hearliest
    · exact UInt64.toNat.inj hzero
    · exact absurd hchunk List.not_mem_nil

end Relay
end StakingIndexer
