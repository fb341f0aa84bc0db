import Mathlib
import StakingIndexer.Proofs.Relay.BlockContent
import StakingIndexer.Proofs.Relay.Records

/-!
# Two views of a stash

The record of a ledger and the validators that its stash nominates are read from one block, but on
separate ways. Both take the stake from the controller. The record counts the nominations of the
controller, though, while its status and the validators are those of the stash: the views agree on
the number of validators just when controller and stash nominate equally many.
-/

namespace StakingIndexer
namespace Relay

open StakingIndexer.Action

namespace Content

variable (c : Content)

/-- What concerns stashes can be read. -/
structure StashesReadable : Prop where
  bonded : ∀ stash, c.Readable (.bonded stash)
  ledger : ∀ controller, c.Readable (.ledger controller)
  nominations : ∀ account, c.Readable (.nominations account)
  account : ∀ account, c.Readable (.account account)
  sessionValidators : c.Readable .sessionValidators

/-- What else a snapshot holds can be read. -/
structure TotalsReadable : Prop where
  activeEra : c.Readable .activeEra
  eraStake : ∀ era, c.Readable (.eraStake era)
  totalIssuance : c.Readable .totalIssuance
  auctions : c.Readable .auctions
  timestamp : c.Readable .timestamp

def targetCount (account : AccountId) : Nat :=
  (c.read (.nominations account)).elim 0 (·.targets.length)

def freeBalance (account : AccountId) : Balance :=
  (c.read (.account account)).elim .zero AccountInfo.free

def record (l : StashLedger) (format : UInt16) : RelayLedgerRecord :=
  let own := c.read (.ledger l.stash)
  let record : RelayLedgerRecord :=
    { ledger := l.ledger
      stash := Ss58.encode l.stash format
      activeBalance := .zero
      totalBalance := .zero
      stashBalance := (c.freeBalance l.stash).toAmount
      stakeStatus := .unbonded
      validatorsCount := 0
      totalUnlockingBalance := (own.elim .zero StakingLedger.totalUnlocking).toAmount
      earliestEraForUnlocking := (own.elim 0 StakingLedger.earliestUnlockingEra).toUInt64 }
  match c.read (.bonded l.stash) with
  | none => record
  | some controller =>
    let stake := c.read (.ledger controller)
    { record with
      activeBalance := (stake.elim .zero StakingLedger.active).toAmount
      totalBalance := (stake.elim .zero StakingLedger.total).toAmount
      stakeStatus := BlockStorage.stakeStatus l.stash (c.read (.nominations l.stash))
        ((c.read .sessionValidators).getD [])
      validatorsCount := UInt64.ofNat (c.targetCount controller) }

def info (l : StashLedger) (format : UInt16) : ValidatorsInfo where
  ledger := l.ledger
  stash := Ss58.encode l.stash format
  activeStake :=
    (((c.read (.bonded l.stash)).bind fun controller => c.read (.ledger controller)).elim .zero
      StakingLedger.active).toAmount
  validators :=
    ((c.read (.nominations l.stash)).elim [] Nominations.targets).map (Ss58.encode · format)

/-- A stored list of nominations is as short as its spelling allows. -/
theorem targetCount_lt (account : AccountId) : c.targetCount account < 2 ^ 32 := by
  unfold targetCount
  cases hnominations : c.read (.nominations account) with
  | none => exact Nat.two_pow_pos 32
  | some n =>
    obtain ⟨bs, -, hread⟩ := Option.bind_eq_some_iff.1 hnominations
    obtain ⟨⟨n, rest⟩, hdecode, rfl⟩ := Option.map_eq_some_iff.1 hread
    exact ((Nominations.exact_codec n bs rest).1 hdecode).1

variable {c}

theorem length_validators_info (l : StashLedger) (format : UInt16) :
    (c.info l format).validators.length = c.targetCount l.stash := by
  unfold info targetCount
  rw [List.length_map]
  cases c.read (.nominations l.stash) <;> rfl

theorem validatorsCount_record {l : StashLedger} {controller : AccountId} (format : UInt16)
    (h : c.read (.bonded l.stash) = some controller) :
    (c.record l format).validatorsCount.toNat = c.targetCount controller := by
  unfold record
  rw [h]
  refine UInt64.toNat_ofNat_of_lt' ?_
  exact Nat.lt_trans (c.targetCount_lt controller) (by decide)

theorem stake_record {l : StashLedger} {controller : AccountId} (format : UInt16)
    (h : c.read (.bonded l.stash) = some controller) :
    (c.record l format).activeBalance = (c.info l format).activeStake := by
  unfold record info
  rw [h]
  rfl

theorem stash_record (l : StashLedger) (format : UInt16) :
    (c.record l format).stash = (c.info l format).stash := by
  unfold record info
  cases c.read (.bonded l.stash) <;> rfl

/-- A bonded stash is a nominator if it nominates, whatever its controller does. -/
theorem stakeStatus_record_eq_nominator_iff {l : StashLedger} {controller : AccountId}
    (format : UInt16) (h : c.read (.bonded l.stash) = some controller) :
    (c.record l format).stakeStatus = .nominator ↔
      ∃ n, c.read (.nominations l.stash) = some n := by
  unfold record
  rw [h, ← Option.isSome_iff_exists]
  change BlockStorage.stakeStatus _ _ _ = _ ↔ _
  unfold BlockStorage.stakeStatus
  split_ifs with hnominations <;> simp [hnominations]

end Content

theorem yields_sideBySide {σ α β : Type} {I : σ → Prop} {fails : Prop}
    {read : α → Action σ Interruption β} {g : α → β}
    (hread : ∀ a, (read a).Yields I fails (· = g a)) (l : List α) :
    (sideBySide read l).Yields I fails (· = l.map g) := by
  induction l with
  | nil => exact yields_pure rfl
  | cons a l ih =>
    intro s hs
    obtain ⟨hkept, hanswer⟩ := hread a s hs
    unfold sideBySide
    generalize read a s = r at hkept hanswer ⊢
    obtain ⟨answer, t⟩ := r
    have hrest := ih t hkept
    obtain ⟨v, rfl, rfl⟩ | ⟨hfails, e, rfl⟩ := hanswer
    · dsimp only
      generalize sideBySide read l t = r at hrest ⊢
      obtain ⟨answer, u⟩ := r
      obtain ⟨hkept, ⟨vs, rfl, rfl⟩ | ⟨hfails, e, rfl⟩⟩ := hrest
      · exact ⟨hkept, .inl ⟨g a :: l.map g, rfl, rfl⟩⟩
      · exact ⟨hkept, .inr ⟨hfails, e, rfl⟩⟩
    · cases e with
      | failed e => exact ⟨hkept, .inr ⟨hfails, .failed e, rfl⟩⟩
      | hung =>
        dsimp only
        generalize sideBySide read l t = r at hrest ⊢
        obtain ⟨answer, u⟩ := r
        obtain ⟨hkept, ⟨vs, rfl, -⟩ | ⟨-, e, rfl⟩⟩ := hrest
        · exact ⟨hkept, .inr ⟨hfails, .hung, rfl⟩⟩
        · exact ⟨hkept, .inr ⟨hfails, e, rfl⟩⟩

namespace ShowsBlock

variable {σ : Type} {api : Api σ} {I : σ → Prop} {block : UInt64} {hash : String} {c : Content}
  (h : ShowsBlock api I block hash c) {fails : Prop}
include h

section Stashes

variable (hc : c.StashesReadable)
include hc

theorem freeBalance_yields (account : AccountId) :
    (BlockStorage.freeBalance ⟨api, hash⟩ account).Yields I fails (· = c.freeBalance account) := by
  refine (h.storage_yields (p := .account account) (absurd (hc.account account))).bind
    fun info hinfo => yields_pure ?_
  rw [hinfo, Content.freeBalance]

theorem payoutBalance_yields (account : Option AccountId) :
    (account.mapM fun account => do
      return (← BlockStorage.freeBalance ⟨api, hash⟩ account).toAmount).Yields I fails
        (· = account.map fun account => (c.freeBalance account).toAmount) := by
  cases account with
  | none => exact yields_pure rfl
  | some account =>
    rw [Option.mapM_some, map_eq_pure_bind]
    refine ((h.freeBalance_yields hc account).bind (Q := (· = (c.freeBalance account).toAmount))
      fun balance hbalance => yields_pure ?_).bind fun amount hamount => yields_pure ?_
    · rw [hbalance]
    · rw [hamount, Option.map_some]

theorem bonded_yields (stash : AccountId) :
    (BlockStorage.bonded ⟨api, hash⟩ stash).Yields I fails (· = c.read (.bonded stash)) :=
  h.storage_yields (p := .bonded stash) (absurd (hc.bonded stash))

theorem ledger_yields (controller : AccountId) :
    (BlockStorage.ledger ⟨api, hash⟩ controller).Yields I fails (· = c.read (.ledger controller)) :=
  h.storage_yields (p := .ledger controller) (absurd (hc.ledger controller))

theorem nominations_yields (account : AccountId) :
    (BlockStorage.nominations ⟨api, hash⟩ account).Yields I fails
      (· = c.read (.nominations account)) :=
  h.storage_yields (p := .nominations account) (absurd (hc.nominations account))

theorem relayLedger_yields (l : StashLedger) (format : UInt16) :
    (BlockStorage.relayLedger ⟨api, hash⟩ l ((c.read .sessionValidators).getD []) format).Yields I
      fails (· = c.record l format) := by
  unfold BlockStorage.relayLedger Content.record
  refine (h.freeBalance_yields hc l.stash).bind fun balance hbalance => ?_
  refine (h.ledger_yields hc l.stash).bind fun own hown => ?_
  refine (h.bonded_yields hc l.stash).bind fun bonded hbonded => ?_
  subst hbalance hown
  rw [← hbonded]
  cases bonded with
  | none => exact yields_pure rfl
  | some controller =>
    refine (h.ledger_yields hc controller).bind fun stake hstake => ?_
    refine (h.nominations_yields hc l.stash).bind fun nominations hnominations => ?_
    refine (h.nominations_yields hc controller).bind fun counted hcounted => yields_pure ?_
    subst hstake hnominations hcounted
    rfl

theorem nominated_yields (l : StashLedger) (format : UInt16) :
    (BlockStorage.nominated ⟨api, hash⟩ l format).Yields I fails (· = c.info l format) := by
  unfold BlockStorage.nominated Content.info
  refine (h.bonded_yields hc l.stash).bind fun bonded hbonded => ?_
  rw [← hbonded]
  cases bonded with
  | none =>
    refine (h.nominations_yields hc l.stash).bind fun nominations hnominations => yields_pure ?_
    subst hnominations
    rfl
  | some controller =>
    refine (h.ledger_yields hc controller).bind fun stake hstake => ?_
    refine (h.nominations_yields hc l.stash).bind fun nominations hnominations => yields_pure ?_
    subst hstake hnominations
    rfl

end Stashes

/-- The records of a snapshot depend on nothing else that it holds; where that is unreadable,
there is no snapshot. -/
theorem stakingSnapshot_yields (hc : c.StashesReadable) (q : StakingQuery) :
    (stakingSnapshot api q block).Yields I (¬ c.TotalsReadable)
      fun s => s.ledgers = q.stashes.map (c.record · q.format) := by
  unfold stakingSnapshot
  refine h.atBlock_yields.bind fun s hs => ?_
  subst hs
  refine (h.storage_yields (p := .activeEra) (mt (·.activeEra))).bind fun activeEra _ => ?_
  extract_lets rest
  have hrest : ∀ totalStaked, Yields I (¬ c.TotalsReadable)
      (fun s => s.ledgers = q.stashes.map (c.record · q.format)) (rest totalStaked) := by
    intro totalStaked
    refine (h.getD_yields (p := .sessionValidators) (absurd hc.sessionValidators) []).bind
      fun sessionValidators hvalidators => ?_
    subst hvalidators
    refine (yields_mapM (fun l => h.relayLedger_yields hc l q.format) q.stashes).bind
      fun ledgers hledgers => ?_
    refine (h.payoutBalance_yields hc q.payoutAccount).bind fun payoutBalance _ => ?_
    refine (h.getD_yields (p := .timestamp) (mt fun htotals => htotals.timestamp) 0).bind
      fun timestamp _ => ?_
    refine (h.getD_yields (p := .totalIssuance) (mt fun htotals => htotals.totalIssuance)
      .zero).bind fun issuance _ => ?_
    refine (h.getD_yields (p := .auctions) (mt fun htotals => htotals.auctions) 0).bind
      fun auctions _ => ?_
    exact yields_pure hledgers
  cases activeEra with
  | none => exact hrest .zero
  | some era =>
    exact (h.getD_yields (p := .eraStake era.index)
      (mt fun htotals => htotals.eraStake era.index) .zero).bind fun stake _ => hrest stake

theorem validatorsInfo_yields (hc : c.StashesReadable) (stashes : List StashLedger)
    (format : UInt16) :
    (validatorsInfo api stashes format block).Yields I fails
      (· = stashes.map (c.info · format)) := by
  unfold validatorsInfo
  refine h.atBlock_yields.bind fun s hs => ?_
  subst hs
  exact yields_sideBySide (fun l => h.nominated_yields hc l format) stashes

end ShowsBlock

/-- The two views of the stashes at one block, whatever is stored there and whichever node shows
it. For each bonded stash, address and stake are the same in both. The record counts as many
validators as are listed just when controller and stash nominate equally many; it is the record of
a nominator only if the stash nominates. -/
theorem stashViews_agree_iff {σ : Type} {api : Api σ} {I : σ → Prop} {block : UInt64}
    {hash : String} {c : Content} (h : ShowsBlock api I block hash c) (hc : c.StashesReadable) :
    (∀ q w, I w → ∀ s, (stakingSnapshot api q block w).1 = .ok s →
      s.ledgers = q.stashes.map (c.record · q.format)) ∧
    (c.TotalsReadable → ∀ q w, I w → ∃ s, (stakingSnapshot api q block w).1 = .ok s) ∧
    (∀ stashes format w, I w → (validatorsInfo api stashes format block w).1
      = .ok (stashes.map (c.info · format))) ∧
    ∀ (l : StashLedger) (controller : AccountId) (format : UInt16),
      c.read (.bonded l.stash) = some controller →
        (c.record l format).stash = (c.info l format).stash ∧
        (c.record l format).activeBalance = (c.info l format).activeStake ∧
        ((c.record l format).validatorsCount.toNat = (c.info l format).validators.length ↔
          c.targetCount controller = c.targetCount l.stash) ∧
        ((c.record l format).stakeStatus = .nominator →
          ∃ n, c.read (.nominations l.stash) = some n ∧
            ((c.record l format).validatorsCount.toNat = n.targets.length ↔
              c.targetCount controller = n.targets.length)) := by
  refine ⟨fun q w hw s hs => (h.stakingSnapshot_yields hc q).of_ok hw hs, fun htotals q w hw => ?_,
    fun stashes format w hw => ?_, fun l controller format hbonded => ?_⟩
  · obtain ⟨s, hs, -⟩ := (h.stakingSnapshot_yields hc q).exists_ok (not_not_intro htotals) hw
    exact ⟨s, hs⟩
  · obtain ⟨infos, hinfos, rfl⟩ :=
      (h.validatorsInfo_yields hc stashes format).exists_ok not_false hw
    exact hinfos
  · have hcount := Content.validatorsCount_record format hbonded
    refine ⟨Content.stash_record l format, Content.stake_record format hbonded, ?_,
      fun hstatus => ?_⟩
    · rw [hcount, Content.length_validators_info]
    · obtain ⟨n, hn⟩ := (Content.stakeStatus_record_eq_nominator_iff format hbonded).1 hstatus
      exact ⟨n, hn, by rw [hcount]⟩

namespace SplitStash

abbrev stash : AccountId := .ofNat 1

abbrev nominated : Nominations := ⟨[.ofNat 3], 0, false⟩

/-- The stash is bonded to a controller, and nothing else is stored. -/
def content (controller : AccountId) : Content := fun key =>
  if key = (Place.bonded stash).key then some controller.bytes
  else if key = (Place.nominations stash).key then some (Nominations.codec.encode nominated)
  else none

variable {controller : AccountId} {key bs : Bytes}

theorem content_cases (h : content controller key = some bs) :
    key = (Place.bonded stash).key ∧ bs = controller.bytes ∨
      key = (Place.nominations stash).key ∧ bs = Nominations.codec.encode nominated := by
  unfold content at h
  split_ifs at h with hbonded hnominations
  · exact .inl ⟨hbonded, (Option.some.inj h).symm⟩
  · exact .inr ⟨hnominations, (Option.some.inj h).symm⟩

theorem readable_of_ne {α : Type} {p : Place α} {pallet item : String} {rest : Bytes}
    (hkey : p.key = Storage.valueKey pallet item ++ rest)
    (hbonded : Storage.valueKey pallet item ≠ Storage.valueKey "Staking" "Bonded")
    (hnominations : Storage.valueKey pallet item ≠ Storage.valueKey "Staking" "Nominators") :
    (content controller).Readable p := by
  intro bs hstored
  obtain ⟨hsame, -⟩ | ⟨hsame, -⟩ := content_cases hstored
  · exact absurd (Storage.valueKey_of_append_eq (hkey.symm.trans hsame)) hbonded
  · exact absurd (Storage.valueKey_of_append_eq (hkey.symm.trans hsame)) hnominations

theorem bonded_ne_nominators :
    Storage.valueKey "Staking" "Bonded" ≠ Storage.valueKey "Staking" "Nominators" := by
  decide +kernel

theorem stashesReadable : (content controller).StashesReadable where
  bonded s := by
    intro bs hstored
    obtain ⟨-, rfl⟩ | ⟨hsame, -⟩ := content_cases hstored
    · exact Option.isSome_iff_exists.2 ⟨_, AccountId.exact_codec.decode_encode trivial⟩
    · exact absurd (Storage.valueKey_of_append_eq hsame) bonded_ne_nominators
  nominations account := by
    intro bs hstored
    obtain ⟨hsame, -⟩ | ⟨-, rfl⟩ := content_cases hstored
    · exact absurd (Storage.valueKey_of_append_eq hsame).symm bonded_ne_nominators
    · exact Option.isSome_iff_exists.2 ⟨_, Nominations.exact_codec.decode_encode (by decide)⟩
  ledger _ := readable_of_ne rfl (by decide +kernel) (by decide +kernel)
  account _ := readable_of_ne rfl (by decide +kernel) (by decide +kernel)
  sessionValidators :=
    readable_of_ne (List.append_nil _).symm (by decide +kernel) (by decide +kernel)

theorem totalsReadable : (content controller).TotalsReadable where
  activeEra := readable_of_ne (List.append_nil _).symm (by decide +kernel) (by decide +kernel)
  eraStake _ := readable_of_ne rfl (by decide +kernel) (by decide +kernel)
  totalIssuance := readable_of_ne (List.append_nil _).symm (by decide +kernel) (by decide +kernel)
  auctions := readable_of_ne (List.append_nil _).symm (by decide +kernel) (by decide +kernel)
  timestamp := readable_of_ne (List.append_nil _).symm (by decide +kernel) (by decide +kernel)

theorem read_eq_some {α : Type} {p : Place α} {P : α → Prop} {v : α} (hp : p.codec.Exact P)
    (hv : P v) (hstored : content controller p.key = some (p.codec.encode v)) :
    (content controller).read p = some v := by
  rw [Content.read, hstored, Option.bind_some, hp.decode_encode hv]
  rfl

theorem read_bonded : (content controller).read (.bonded stash) = some controller :=
  read_eq_some AccountId.exact_codec trivial (if_pos rfl)

theorem read_nominations : (content controller).read (.nominations stash) = some nominated := by
  have hne : (Place.nominations stash).key ≠ (Place.bonded stash).key := fun hsame =>
    bonded_ne_nominators (Storage.valueKey_of_append_eq hsame).symm
  exact read_eq_some Nominations.exact_codec (by decide) ((if_neg hne).trans (if_pos rfl))

theorem targetCount_other : (content controller).targetCount (.ofNat 2) = 0 := by
  have hnone : content controller (Place.nominations (.ofNat 2)).key = none := by
    refine (if_neg ?_).trans (if_neg ?_) <;> decide +kernel
  rw [Content.targetCount, Content.read, hnone]
  rfl

end SplitStash

open SplitStash in
/-- A stash that is its own controller. -/
theorem stashViews_agree_iff_ownController :
    (content stash).StashesReadable ∧
    (∃ s, (stakingSnapshot ((content stash).answers "0x01") ⟨[⟨stash, .ofNat 7⟩], none, 42⟩ 1 ()).1
        = .ok s ∧ s.ledgers = [(content stash).record ⟨stash, .ofNat 7⟩ 42]) ∧
    (validatorsInfo ((content stash).answers "0x01") [⟨stash, .ofNat 7⟩] 42 1 ()).1
      = .ok [(content stash).info ⟨stash, .ofNat 7⟩ 42] ∧
    (content stash).read (.bonded stash) = some stash ∧
    ((content stash).record ⟨stash, .ofNat 7⟩ 42).validatorsCount.toNat
      = ((content stash).info ⟨stash, .ofNat 7⟩ 42).validators.length := by
  obtain ⟨hledgers, hsnapshot, hinfos, hviews⟩ :=
    stashViews_agree_iff ((content stash).answers_showsBlock "0x01" 1) stashesReadable
  obtain ⟨s, hs⟩ := hsnapshot totalsReadable ⟨[⟨stash, .ofNat 7⟩], none, 42⟩ () trivial
  have hbonded : (content stash).read (.bonded stash) = some stash := read_bonded
  refine ⟨stashesReadable, ⟨s, hs, hledgers _ () trivial s hs⟩, hinfos _ 42 () trivial, hbonded, ?_⟩
  exact (hviews ⟨stash, .ofNat 7⟩ stash 42 hbonded).2.2.1.2 rfl

open SplitStash in
/-- A stash nominates a validator, and its controller does not: the record is that of a nominator
without validators, while one validator is listed. -/
theorem stashViews_differ_splitStash :
    ∃ s infos,
      (stakingSnapshot ((content (.ofNat 2)).answers "0x01") ⟨[⟨stash, .ofNat 7⟩], none, 42⟩ 1
        ()).1 = .ok s ∧
      (validatorsInfo ((content (.ofNat 2)).answers "0x01") [⟨stash, .ofNat 7⟩] 42 1 ()).1
        = .ok infos ∧
      (content (.ofNat 2)).StashesReadable ∧
      (content (.ofNat 2)).read (.bonded stash) = some (.ofNat 2) ∧
      s.ledgers.map (fun r => (r.stakeStatus, r.validatorsCount)) = [(.nominator, 0)] ∧
      infos.map (·.validators.length) = [1] := by
  have hnode := (content (.ofNat 2)).answers_showsBlock "0x01" 1
  obtain ⟨s, hs, hledgers⟩ := (hnode.stakingSnapshot_yields stashesReadable
    ⟨[⟨stash, .ofNat 7⟩], none, 42⟩).exists_ok (not_not_intro totalsReadable) trivial
  obtain ⟨infos, hinfos, rfl⟩ := (hnode.validatorsInfo_yields stashesReadable
    [⟨stash, .ofNat 7⟩] 42).exists_ok not_false trivial
  have hbonded : (content (.ofNat 2)).read (.bonded stash) = some (.ofNat 2) := read_bonded
  refine ⟨s, _, hs, hinfos, stashesReadable, hbonded, ?_, ?_⟩
  · have hstatus : ((content (.ofNat 2)).record ⟨stash, .ofNat 7⟩ 42).stakeStatus = .nominator :=
      (Content.stakeStatus_record_eq_nominator_iff (l := ⟨stash, .ofNat 7⟩) 42 hbonded).2
        ⟨nominated, read_nominations⟩
    have hcount : ((content (.ofNat 2)).record ⟨stash, .ofNat 7⟩ 42).validatorsCount = 0 := by
      apply UInt64.toNat.inj
      rw [Content.validatorsCount_record (l := ⟨stash, .ofNat 7⟩) 42 hbonded, targetCount_other]
      rfl
    rw [hledgers, List.map_singleton, List.map_singleton, hstatus, hcount]
  · rw [List.map_singleton, List.map_singleton, Content.length_validators_info,
      Content.targetCount, read_nominations]
    rfl

end Relay
end StakingIndexer
