import Mathlib
import StakingIndexer.Bytes.Lemmas
import StakingIndexer.Codec.Basic

/-!
# Codecs without a second spelling

A codec is exact if it reads a value off a byte string just when the string begins with what
the codec writes for it, and then leaves what is behind. Codecs that are put together from
exact ones are exact.
-/

namespace StakingIndexer
namespace Codec

variable {α β : Type} {c : Codec α} {d : Codec β} {P : α → Prop} {Q : β → Prop}

/-- Reading gives a value and what is behind it just when the value has the property and the
byte string begins with its spelling. -/
def Exact (c : Codec α) (P : α → Prop) : Prop :=
  ∀ v bs rest, c.decode bs = some (v, rest) ↔ P v ∧ bs = c.encode v ++ rest

theorem Exact.decode_encode (h : c.Exact P) {v : α} (hv : P v) :
    c.decode (c.encode v) = some (v, []) :=
  (h v (c.encode v) []).2 ⟨hv, (List.append_nil _).symm⟩

theorem Exact.map (h : c.Exact P) {forward : α → β} {back : β → α}
    (hback : ∀ b, Q b → P (back b) ∧ forward (back b) = b)
    (hforward : ∀ a, P a → Q (forward a) ∧ back (forward a) = a) :
    (c.map forward back).Exact Q := by
  intro v bs rest
  simp only [Codec.map, Option.map_eq_some_iff, Prod.exists, Prod.mk.injEq]
  constructor
  · rintro ⟨a, tail, hread, rfl, rfl⟩
    obtain ⟨ha, hbs⟩ := (h a bs tail).1 hread
    obtain ⟨hv, hinv⟩ := hforward a ha
    exact ⟨hv, by rw [hinv, hbs]⟩
  · rintro ⟨hv, hbs⟩
    obtain ⟨ha, hinv⟩ := hback v hv
    exact ⟨back v, rest, (h _ _ _).2 ⟨ha, hbs⟩, hinv, rfl⟩

theorem Exact.pair (hc : c.Exact P) (hd : d.Exact Q) :
    (c.pair d).Exact fun v => P v.1 ∧ Q v.2 := by
  rintro ⟨a, b⟩ bs rest
  simp only [Codec.pair, Option.bind_eq_bind, Option.bind_eq_some_iff, Prod.exists,
    Option.pure_def, Option.some.injEq, Prod.mk.injEq]
  constructor
  · rintro ⟨a, tail, hfirst, b, tail, hsecond, ⟨rfl, rfl⟩, rfl⟩
    obtain ⟨ha, rfl⟩ := (hc _ _ _).1 hfirst
    obtain ⟨hb, rfl⟩ := (hd _ _ _).1 hsecond
    exact ⟨⟨ha, hb⟩, (List.append_assoc ..).symm⟩
  · rintro ⟨⟨ha, hb⟩, rfl⟩
    refine ⟨a, d.encode b ++ rest, ?_, b, rest, ?_, ⟨rfl, rfl⟩, rfl⟩
    · exact (hc _ _ _).2 ⟨ha, List.append_assoc ..⟩
    · exact (hd _ _ _).2 ⟨hb, rfl⟩

theorem exact_block (length : Nat) : (block length).Exact fun bs => bs.length = length := by
  intro v bs rest
  simp only [block, Option.ite_none_right_eq_some, Option.some.injEq, Prod.mk.injEq]
  constructor
  · rintro ⟨hle, rfl, rfl⟩
    exact ⟨List.length_take_of_le hle, (List.take_append_drop ..).symm⟩
  · rintro ⟨rfl, rfl⟩
    simp

theorem exact_fixed (width : Nat) : (fixed width).Exact (· < 256 ^ width) := by
  intro n bs rest
  simp only [fixed, Option.map_eq_some_iff, Prod.exists, Prod.mk.injEq]
  constructor
  · rintro ⟨front, tail, hread, rfl, rfl⟩
    obtain ⟨rfl, rfl⟩ := (exact_block width _ _ _).1 hread
    exact ⟨Bytes.toNatLE_lt front, by rw [Bytes.ofNatLE_toNatLE]; rfl⟩
  · rintro ⟨hn, rfl⟩
    refine ⟨Bytes.ofNatLE width n, rest, ?_, ?_, rfl⟩
    · exact (exact_block width _ _ _).2 ⟨Bytes.length_ofNatLE width n, rfl⟩
    · rw [Bytes.toNatLE_ofNatLE, Nat.mod_eq_of_lt hn]

theorem exact_u32 : u32.Exact fun _ => True := by
  refine (exact_fixed 4).map (fun w _ => ⟨w.toNat_lt, ?_⟩) fun n hn => ⟨trivial, ?_⟩
  · exact UInt32.ofNat_toNat
  · exact UInt32.toNat_ofNat_of_lt' hn

theorem exact_u64 : u64.Exact fun _ => True := by
  refine (exact_fixed 8).map (fun w _ => ⟨w.toNat_lt, ?_⟩) fun n hn => ⟨trivial, ?_⟩
  · exact UInt64.ofNat_toNat
  · exact UInt64.toNat_ofNat_of_lt' hn

theorem exact_bool : bool.Exact fun _ => True := by
  rintro v (_ | ⟨b, bs⟩) rest
  · simp [bool]
  · by_cases hzero : b = 0
    · cases v <;> simp [bool, hzero]
    · by_cases hone : b = 1
      · cases v <;> simp [bool, hone]
      · cases v <;> simp [bool, hzero, hone]

theorem Exact.option (h : c.Exact P) : c.option.Exact fun o => ∀ v ∈ o, P v := by
  intro o bs rest
  simp only [Codec.option, Option.bind_eq_bind, Option.bind_eq_some_iff, Prod.exists,
    Option.pure_def]
  constructor
  · rintro ⟨isSome, tail, hmark, hread⟩
    obtain ⟨-, rfl⟩ := (exact_bool _ _ _).1 hmark
    cases isSome with
    | false =>
      simp only [Bool.false_eq_true, if_false, Option.some.injEq, Prod.mk.injEq] at hread
      obtain ⟨rfl, rfl⟩ := hread
      simp [bool]
    | true =>
      simp only [if_true, Option.bind_eq_some_iff, Prod.exists, Option.some.injEq,
        Prod.mk.injEq] at hread
      obtain ⟨v, tail, hread, rfl, rfl⟩ := hread
      obtain ⟨hv, rfl⟩ := (h _ _ _).1 hread
      simp [bool, hv]
  · rintro ⟨ho, rfl⟩
    cases o with
    | none => exact ⟨false, rest, (exact_bool _ _ _).2 ⟨trivial, rfl⟩, by simp⟩
    | some v =>
      have hread := (h v (c.encode v ++ rest) rest).2 ⟨ho v rfl, rfl⟩
      exact ⟨true, c.encode v ++ rest, (exact_bool _ _ _).2 ⟨trivial, rfl⟩, by simp [hread]⟩

theorem Exact.times (h : c.Exact P) (n : Nat) (vs : List α) (bs rest : Bytes) :
    c.times n bs = some (vs, rest) ↔
      (vs.length = n ∧ ∀ v ∈ vs, P v) ∧ bs = vs.flatMap c.encode ++ rest := by
  induction n generalizing vs bs with
  | zero =>
    simp only [Codec.times, Option.some.injEq, Prod.mk.injEq, List.length_eq_zero_iff]
    constructor
    · rintro ⟨rfl, rfl⟩
      simp
    · rintro ⟨⟨rfl, -⟩, rfl⟩
      simp
  | succ n ih =>
    simp only [Codec.times, Option.bind_eq_bind, Option.bind_eq_some_iff, Prod.exists,
      Option.pure_def, Option.some.injEq, Prod.mk.injEq]
    constructor
    · rintro ⟨v, tail, hread, vs, tail, hothers, rfl, rfl⟩
      obtain ⟨hv, rfl⟩ := (h _ _ _).1 hread
      obtain ⟨⟨rfl, hvs⟩, rfl⟩ := (ih _ _).1 hothers
      exact ⟨⟨rfl, List.forall_mem_cons.2 ⟨hv, hvs⟩⟩, by simp⟩
    · rintro ⟨⟨hlength, hvs⟩, rfl⟩
      obtain ⟨v, vs, rfl⟩ := List.exists_cons_of_length_eq_add_one hlength
      have hv := (h v (c.encode v ++ (vs.flatMap c.encode ++ rest)) _).2 ⟨hvs v (by simp), rfl⟩
      have hothers := (ih vs (vs.flatMap c.encode ++ rest)).2
        ⟨⟨by simpa using hlength, fun u hu => hvs u (by simp [hu])⟩, rfl⟩
      exact ⟨v, vs.flatMap c.encode ++ rest, by simpa using hv, vs, rest, hothers, rfl, rfl⟩

end Codec
end StakingIndexer
