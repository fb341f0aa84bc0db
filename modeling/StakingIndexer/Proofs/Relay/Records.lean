import Mathlib
import StakingIndexer.Proofs.Codec.Compact
import StakingIndexer.Relay.Staking

/-!
# Spellings of the staking records

The records of the staking pallet are their fields in order, so each has one spelling, which is
read without a look at what is behind it.
-/

namespace StakingIndexer

open Codec

namespace AccountId

theorem exact_codec : codec.Exact fun _ => True := by
  intro a bs rest
  unfold codec
  simp only [Option.dite_none_right_eq_some, Option.some.injEq, Prod.mk.injEq]
  constructor
  · rintro ⟨hle, rfl, rfl⟩
    simp
  · rintro ⟨-, rfl⟩
    have hlength := a.length_bytes
    refine ⟨by simp [hlength], AccountId.ext ?_, ?_⟩
    · exact List.take_left' hlength
    · exact List.drop_left' hlength

end AccountId

namespace Balance

theorem size_eq : size = 256 ^ 16 := by decide

theorem toNat_clampNat {n : Nat} (h : n < size) : (clampNat n).toNat = n := by
  rw [clampNat, dif_pos h]

theorem clampNat_toNat (b : Balance) : clampNat b.toNat = b := by
  rw [clampNat, dif_pos b.toNat_lt]

theorem exact_map {c : Codec Nat} (h : c.Exact (· < 256 ^ 16)) :
    (c.map clampNat toNat).Exact fun _ => True :=
  h.map (fun b _ => ⟨size_eq ▸ b.toNat_lt, b.clampNat_toNat⟩)
    fun _ hn => ⟨trivial, toNat_clampNat (size_eq ▸ hn)⟩

theorem exact_codec : codec.Exact fun _ => True := exact_map (exact_fixed 16)

theorem exact_compactCodec : compactCodec.Exact fun _ => True :=
  exact_map (exact_compact (by decide) (by decide))

end Balance

theorem ActiveEra.exact_codec : codec.Exact fun _ => True := by
  refine (exact_u32.pair exact_u64.option).map (fun _ _ => ⟨?_, rfl⟩) fun _ _ => ⟨trivial, rfl⟩
  simp

theorem UnlockingChunk.exact_codec : codec.Exact fun _ => True := by
  have hera : ((compact 4).map UInt32.ofNat UInt32.toNat).Exact fun _ => True :=
    (exact_compact (by decide) (by decide)).map (fun w _ => ⟨w.toNat_lt, UInt32.ofNat_toNat⟩)
      fun n hn => ⟨trivial, UInt32.toNat_ofNat_of_lt' hn⟩
  exact (Balance.exact_compactCodec.pair hera).map (fun _ _ => ⟨⟨trivial, trivial⟩, rfl⟩)
    fun _ _ => ⟨trivial, rfl⟩

theorem StakingLedger.exact_codec : codec.Exact fun l => l.unlocking.length < 2 ^ 32 := by
  refine (AccountId.exact_codec.pair (Balance.exact_compactCodec.pair
    (Balance.exact_compactCodec.pair UnlockingChunk.exact_codec.list))).map
      (fun l hl => ⟨?_, rfl⟩) fun r hr => ⟨?_, rfl⟩
  · simpa using hl
  · simpa using hr

theorem Nominations.exact_codec : codec.Exact fun n => n.targets.length < 2 ^ 32 := by
  refine (AccountId.exact_codec.list.pair (exact_u32.pair exact_bool)).map
    (fun n hn => ⟨?_, rfl⟩) fun r hr => ⟨?_, rfl⟩
  · simpa using hn
  · simpa using hr

theorem AccountInfo.exact_codec : codec.Exact fun _ => True := by
  refine (exact_u32.pair (exact_u32.pair (exact_u32.pair (exact_u32.pair
    (Balance.exact_codec.pair (Balance.exact_codec.pair
      (Balance.exact_codec.pair Balance.exact_codec))))))).map
        (fun _ _ => ⟨?_, rfl⟩) fun _ _ => ⟨trivial, rfl⟩
  simp

/-- A record is read just when the byte string begins with its spelling, whatever is behind it.
It is spelled as its fields in order, numbers from the least significant byte on. -/
theorem records_exact :
    (ActiveEra.codec.Exact (fun _ => True) ∧
      ∀ e, ActiveEra.codec.encode e = Bytes.ofNatLE 4 e.index.toNat ++
        (match e.start with
          | none => [0]
          | some start => 1 :: Bytes.ofNatLE 8 start.toNat)) ∧
    (StakingLedger.codec.Exact (fun l => l.unlocking.length < 2 ^ 32) ∧
      ∀ l, StakingLedger.codec.encode l = l.stash.bytes ++ (compact 16).encode l.total.toNat ++
        (compact 16).encode l.active.toNat ++ (compact 4).encode l.unlocking.length ++
          l.unlocking.flatMap fun c =>
            (compact 16).encode c.value.toNat ++ (compact 4).encode c.era.toNat) ∧
    (Nominations.codec.Exact (fun n => n.targets.length < 2 ^ 32) ∧
      ∀ n, Nominations.codec.encode n = (compact 4).encode n.targets.length ++
        n.targets.flatMap AccountId.bytes ++ Bytes.ofNatLE 4 n.submittedIn.toNat ++
          [if n.suppressed then 1 else 0]) ∧
    (AccountInfo.codec.Exact (fun _ => True) ∧
      ∀ a, AccountInfo.codec.encode a =
        [a.nonce, a.consumers, a.providers, a.sufficients].flatMap
            (fun n => Bytes.ofNatLE 4 n.toNat) ++
          [a.free, a.reserved, a.frozen, a.flags].flatMap fun b => Bytes.ofNatLE 16 b.toNat) := by
  refine ⟨⟨ActiveEra.exact_codec, fun e => ?_⟩, ⟨StakingLedger.exact_codec, fun l => ?_⟩,
    ⟨Nominations.exact_codec, fun n => ?_⟩, AccountInfo.exact_codec, fun a => ?_⟩
  · obtain ⟨index, _ | start⟩ := e <;> rfl
  · change l.stash.bytes ++ ((compact 16).encode l.total.toNat ++
      ((compact 16).encode l.active.toNat ++ ((compact 4).encode l.unlocking.length ++
        l.unlocking.flatMap UnlockingChunk.codec.encode))) = _
    simp only [List.append_assoc]
    rfl
  · change (compact 4).encode n.targets.length ++ n.targets.flatMap AccountId.bytes ++
      (Bytes.ofNatLE 4 n.submittedIn.toNat ++ [if n.suppressed then 1 else 0]) = _
    simp only [List.append_assoc]
  · simp only [List.flatMap_cons, List.flatMap_nil, List.append_nil, List.append_assoc]
    rfl

/-- A compact number in two bytes that one byte would hold is refused. -/
example : (compact 16).encode 63 = [252] ∧ (compact 16).decode [253, 0] = none := by decide

end StakingIndexer
