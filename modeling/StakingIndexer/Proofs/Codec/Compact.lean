import Mathlib
import StakingIndexer.Proofs.Codec.Exact

/-!
# Compact numbers

A number has four forms, told apart by the two lowest bits of the first byte, and each form
holds only the numbers that are too great for the form before it. So a number has one spelling.
-/

namespace StakingIndexer
namespace Codec

theorem byteCount_le_iff (n k : Nat) : byteCount n ≤ k ↔ n < 256 ^ k := by
  induction k generalizing n with
  | zero =>
    unfold byteCount
    split_ifs with h <;> simp [h]
  | succ k ih =>
    unfold byteCount
    split_ifs with h
    · simp [h]
    · rw [Nat.add_le_add_iff_right, ih, Nat.div_lt_iff_lt_mul (by decide), Nat.pow_succ]

theorem byteCount_eq_succ_iff (n k : Nat) :
    byteCount n = k + 1 ↔ 256 ^ k ≤ n ∧ n < 256 ^ (k + 1) := by
  have hlower := byteCount_le_iff n k
  have hupper := byteCount_le_iff n (k + 1)
  omega

theorem decode_fixed_one {width : Nat} {bs rest : Bytes} {m : Nat}
    (h : (fixed (width + 1)).decode bs = some (m, rest)) :
    ∃ tail, (fixed 1).decode bs = some (m % 256, tail) := by
  obtain ⟨-, rfl⟩ := (exact_fixed _ _ _ _).1 h
  refine ⟨Bytes.ofNatLE width (m / 256) ++ rest, (exact_fixed 1 _ _ _).2 ⟨by omega, ?_⟩⟩
  have hbyte : UInt8.ofNat (m % 256) = UInt8.ofNat m := by
    apply UInt8.toNat.inj
    simp
  simp [fixed, Bytes.ofNatLE, hbyte]

/-- A form of `width` bytes, which holds the numbers from `least` on and is marked by `mark`. -/
def ReadsAs (mark width least n : Nat) (bs rest : Bytes) : Prop :=
  ∃ m, (fixed (width + 1)).decode bs = some (m, rest) ∧ m % 4 = mark ∧ least ≤ n ∧ m / 4 = n

theorem readsAs_of_first {first mark width least m : Nat} {bs tail rest : Bytes}
    (hfirst : (fixed 1).decode bs = some (first, tail)) (hmark : first % 4 = mark)
    (hread : (fixed (width + 1)).decode bs = some (m, rest)) (hleast : least ≤ m / 4) :
    ReadsAs mark width least (m / 4) bs rest := by
  obtain ⟨tail', hfirst'⟩ := decode_fixed_one hread
  rw [hfirst] at hfirst'
  cases hfirst'
  exact ⟨m, hread, by omega, hleast, rfl⟩

theorem readsAs_iff {mark : Nat} (hmark : mark < 4) (width least n : Nat) (bs rest : Bytes) :
    ReadsAs mark width least n bs rest ↔
      (least ≤ n ∧ 4 * n + mark < 256 ^ (width + 1)) ∧
        bs = Bytes.ofNatLE (width + 1) (4 * n + mark) ++ rest := by
  constructor
  · rintro ⟨m, hread, rfl, hleast, rfl⟩
    obtain ⟨hm, rfl⟩ := (exact_fixed _ _ _ _).1 hread
    rw [Nat.div_add_mod]
    exact ⟨⟨hleast, hm⟩, rfl⟩
  · rintro ⟨⟨hleast, hn⟩, rfl⟩
    exact ⟨4 * n + mark, (exact_fixed _ _ _ _).2 ⟨hn, rfl⟩, by omega, hleast, by omega⟩

/-- The form in which the first byte says how many bytes follow. -/
def ReadsLong (width n : Nat) (bs rest : Bytes) : Prop :=
  ∃ first tail, (fixed 1).decode bs = some (first, tail) ∧ first % 4 = 3 ∧
    (fixed (first / 4 + 4)).decode tail = some (n, rest) ∧
      first / 4 + 4 ≤ width ∧ 2 ^ 30 ≤ n ∧ 256 ^ (first / 4 + 3) ≤ n

theorem readsLong_iff {width : Nat} (hwidth : width ≤ 67) (n : Nat) (bs rest : Bytes) :
    ReadsLong width n bs rest ↔
      (2 ^ 30 ≤ n ∧ n < 256 ^ width) ∧
        bs = UInt8.ofNat (4 * (byteCount n - 4) + 3) :: Bytes.ofNatLE (byteCount n) n ++ rest := by
  constructor
  · rintro ⟨first, tail, hfirst, hmark, hread, hcount, hlarge, hleast⟩
    obtain ⟨-, rfl⟩ := (exact_fixed _ _ _ _).1 hfirst
    obtain ⟨hn, rfl⟩ := (exact_fixed _ _ _ _).1 hread
    have hbytes : byteCount n = first / 4 + 3 + 1 := (byteCount_eq_succ_iff n _).2 ⟨hleast, hn⟩
    have hspelled : 4 * (byteCount n - 4) + 3 = first := by omega
    refine ⟨⟨hlarge, (byteCount_le_iff n width).1 (by omega)⟩, ?_⟩
    rw [hspelled, hbytes]
    rfl
  · rintro ⟨⟨hlarge, hn⟩, rfl⟩
    have hle := (byteCount_le_iff n width).2 hn
    have hge : ¬ byteCount n ≤ 3 := by
      rw [byteCount_le_iff]
      omega
    obtain ⟨k, hk⟩ : ∃ k, byteCount n = k + 3 + 1 := ⟨byteCount n - 4, by omega⟩
    obtain ⟨hleast, hmost⟩ := (byteCount_eq_succ_iff n (k + 3)).1 hk
    have hcount : (4 * (byteCount n - 4) + 3) / 4 + 3 = k + 3 := by omega
    refine ⟨4 * (byteCount n - 4) + 3, Bytes.ofNatLE (byteCount n) n ++ rest, ?_, by omega, ?_,
      by omega, hlarge, by rwa [hcount]⟩
    · exact (exact_fixed _ _ _ _).2 ⟨by omega, rfl⟩
    · have hlength : (4 * (byteCount n - 4) + 3) / 4 + 4 = byteCount n := by omega
      rw [hlength]
      exact (exact_fixed _ _ _ _).2 ⟨hk ▸ hmost, rfl⟩

theorem shiftLeft_le_iff (count n : Nat) :
    1 <<< (8 * (count + 3)) ≤ n ↔ 256 ^ (count + 3) ≤ n := by
  rw [Nat.one_shiftLeft, Nat.pow_mul]

/-- A compact number is read in one of its four forms. -/
theorem decode_compact_iff (width n : Nat) (bs rest : Bytes) :
    (compact width).decode bs = some (n, rest) ↔
      ReadsAs 0 0 0 n bs rest ∨ ReadsAs 1 1 (2 ^ 6) n bs rest ∨ ReadsAs 2 3 (2 ^ 14) n bs rest ∨
        ReadsLong width n bs rest := by
  constructor
  · intro h
    simp only [compact, Option.bind_eq_bind, Option.bind_eq_some_iff, Prod.exists] at h
    obtain ⟨first, tail, hfirst, h⟩ := h
    split at h
    case h_1 hmark =>
      cases h
      exact .inl ⟨first, hfirst, hmark, Nat.zero_le _, rfl⟩
    case h_2 hmark =>
      simp only [Option.bind_eq_some_iff, Prod.exists, Option.ite_none_right_eq_some] at h
      obtain ⟨m, tail, hread, hleast, h⟩ := h
      cases h
      exact .inr (.inl (readsAs_of_first hfirst hmark hread hleast))
    case h_3 hmark =>
      simp only [Option.bind_eq_some_iff, Prod.exists, Option.ite_none_right_eq_some] at h
      obtain ⟨m, tail, hread, hleast, h⟩ := h
      cases h
      exact .inr (.inr (.inl (readsAs_of_first hfirst hmark hread hleast)))
    case h_4 hzero hone htwo =>
      simp only [Option.bind_eq_some_iff, Prod.exists, Option.ite_none_right_eq_some] at h
      obtain ⟨m, tail', hread, ⟨hcount, hlarge, hleast⟩, h⟩ := h
      cases h
      have hmark : first % 4 = 3 := by grind
      exact .inr (.inr (.inr ⟨first, tail, hfirst, hmark, hread, hcount, hlarge,
        (shiftLeft_le_iff _ _).1 hleast⟩))
  · rintro (⟨m, hread, hmark, hleast, rfl⟩ | ⟨m, hread, hmark, hleast, rfl⟩ |
      ⟨m, hread, hmark, hleast, rfl⟩ | ⟨first, tail, hfirst, hmark, hread, hcount, hlarge, hleast⟩)
    · simp [compact, hread, hmark]
    · obtain ⟨tail, hfirst⟩ := decode_fixed_one hread
      have hform : m % 256 % 4 = 1 := by omega
      simpa [compact, hfirst, hform, hread] using hleast
    · obtain ⟨tail, hfirst⟩ := decode_fixed_one hread
      have hform : m % 256 % 4 = 2 := by omega
      simpa [compact, hfirst, hform, hread] using hleast
    · have hlong := (shiftLeft_le_iff _ _).2 hleast
      simpa [compact, hfirst, hmark, hread, hcount] using ⟨hlarge, hlong⟩

/-- Every number of up to `width` bytes has one compact spelling. -/
theorem exact_compact {width : Nat} (hmin : 4 ≤ width) (hmax : width ≤ 67) :
    (compact width).Exact (· < 256 ^ width) := by
  intro n bs rest
  have hwidth : 256 ^ 4 ≤ 256 ^ width := Nat.pow_le_pow_right (by decide) hmin
  rw [decode_compact_iff, readsAs_iff (by decide), readsAs_iff (by decide),
    readsAs_iff (by decide), readsLong_iff hmax]
  unfold compact
  simp only [Nat.one_shiftLeft]
  split_ifs <;> grind

theorem Exact.list {α : Type} {c : Codec α} {P : α → Prop} (h : c.Exact P) :
    c.list.Exact fun vs => vs.length < 2 ^ 32 ∧ ∀ v ∈ vs, P v := by
  have hcount : (compact 4).Exact (· < 256 ^ 4) := exact_compact (by decide) (by decide)
  intro vs bs rest
  simp only [Codec.list, Option.bind_eq_bind, Option.bind_eq_some_iff, Prod.exists]
  constructor
  · rintro ⟨n, tail, hread, hvalues⟩
    obtain ⟨hn, rfl⟩ := (hcount _ _ _).1 hread
    obtain ⟨⟨rfl, hvs⟩, rfl⟩ := (h.times _ _ _ _).1 hvalues
    exact ⟨⟨hn, hvs⟩, (List.append_assoc ..).symm⟩
  · rintro ⟨⟨hn, hvs⟩, rfl⟩
    refine ⟨vs.length, vs.flatMap c.encode ++ rest, ?_, (h.times _ _ _ _).2 ⟨⟨rfl, hvs⟩, rfl⟩⟩
    exact (hcount _ _ _).2 ⟨hn, List.append_assoc ..⟩

end Codec
end StakingIndexer
