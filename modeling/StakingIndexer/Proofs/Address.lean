import Mathlib
import StakingIndexer.Address
import StakingIndexer.Bytes.Lemmas

/-!
# Texts of addresses

The case of the letters spells a checksum, which no reader looks at. An address is therefore
read back from its text, whatever the digest is, and distinct addresses have distinct texts.
-/

namespace StakingIndexer

namespace Bytes

theorem hexValue_hexDigit {n : Nat} (h : n < 16) : hexValue (hexDigit n) = some n := by
  revert n
  decide

theorem hexValue_toUpper_hexDigit {n : Nat} (h : n < 16) :
    hexValue (hexDigit n).toUpper = some n := by
  revert n
  decide

theorem ofHexDigits_of_values {cs ds : List Char} (h : cs.map hexValue = ds.map hexValue) :
    ofHexDigits cs = ofHexDigits ds := by
  induction cs using ofHexDigits.induct generalizing ds with
  | case1 =>
    cases List.map_eq_nil_iff.1 h.symm
    rfl
  | case2 c =>
    obtain ⟨d, ds, rfl, -, hds⟩ := List.map_eq_cons_iff.1 h.symm
    cases List.map_eq_nil_iff.1 hds
    rfl
  | case3 hi lo rest ih =>
    obtain ⟨d, ds, rfl, hd, hds⟩ := List.map_eq_cons_iff.1 h.symm
    obtain ⟨d', ds, rfl, hd', hds⟩ := List.map_eq_cons_iff.1 hds
    rw [ofHexDigits, ofHexDigits, hd, hd', ih hds.symm]

theorem ofHexDigits_toHexDigits (bs : Bytes) : ofHexDigits (toHexDigits bs) = some bs := by
  induction bs with
  | nil => rfl
  | cons b bs ih =>
    have hb := b.toNat_lt
    have hsum : 16 * (b.toNat / 16) + b.toNat % 16 = b.toNat := Nat.div_add_mod _ _
    rw [toHexDigits, ofHexDigits, hexValue_hexDigit (by omega), hexValue_hexDigit (by omega), ih]
    change some (UInt8.ofNat (16 * (b.toNat / 16) + b.toNat % 16) :: bs) = _
    rw [hsum, UInt8.ofNat_toNat]

theorem length_toHexDigits (bs : Bytes) : (toHexDigits bs).length = 2 * bs.length := by
  induction bs with
  | nil => rfl
  | cons b bs ih =>
    rw [toHexDigits, List.length_cons, List.length_cons, ih, List.length_cons]
    omega

theorem exists_of_mem_toHexDigits {bs : Bytes} {c : Char} (h : c ∈ toHexDigits bs) :
    ∃ n < 16, c = hexDigit n := by
  induction bs with
  | nil => cases h
  | cons b bs ih =>
    have hb := b.toNat_lt
    rcases List.mem_cons.1 h with rfl | h
    · exact ⟨_, by omega, rfl⟩
    · rcases List.mem_cons.1 h with rfl | h
      · exact ⟨_, by omega, rfl⟩
      · exact ih h

theorem toNatBE_ofNatBE (width n : Nat) : toNatBE (ofNatBE width n) = n % 256 ^ width := by
  rw [ofNatBE, toNatBE_reverse, toNatLE_ofNatLE]

end Bytes

namespace Address

theorem length_capitalise (cs ds : List Char) : (capitalise cs ds).length = cs.length := by
  induction cs generalizing ds with
  | nil => cases ds <;> rfl
  | cons c cs ih =>
    cases ds with
    | nil => rfl
    | cons d ds => rw [capitalise, List.length_cons, List.length_cons, ih]

theorem values_capitalise {cs : List Char} (h : ∀ c ∈ cs, ∃ n < 16, c = Bytes.hexDigit n)
    (ds : List Char) : (capitalise cs ds).map Bytes.hexValue = cs.map Bytes.hexValue := by
  induction cs generalizing ds with
  | nil => cases ds <;> rfl
  | cons c cs ih =>
    cases ds with
    | nil => rfl
    | cons d ds =>
      obtain ⟨n, hn, rfl⟩ := h c (by simp)
      rw [capitalise, List.map_cons, List.map_cons, ih fun c hc => h c (by simp [hc])]
      split_ifs
      · rw [Bytes.hexValue_toUpper_hexDigit hn, Bytes.hexValue_hexDigit hn]
      · rfl

theorem ofBytes_bytes (a : Address) : ofBytes a.bytes = a := by
  apply Address.ext
  have ha := a.toNat_lt
  have hsize : (256 : Nat) ^ 20 = size := by decide
  change Bytes.toNatBE (Bytes.ofNatBE 20 a.toNat) % size = a.toNat
  rw [Bytes.toNatBE_ofNatBE, hsize, Nat.mod_mod, Nat.mod_eq_of_lt ha]

theorem parse?_toChecksum (a : Address) : parse? a.toChecksum = some a := by
  unfold parse? toChecksum
  simp only [String.toList_ofList]
  have hlength : (Bytes.toHexDigits a.bytes).length = 40 := by
    rw [Bytes.length_toHexDigits, bytes, Bytes.length_ofNatBE]
  rw [length_capitalise, if_pos hlength, Bytes.ofHexDigits_of_values
    (values_capitalise (fun c hc => Bytes.exists_of_mem_toHexDigits hc) _),
    Bytes.ofHexDigits_toHexDigits, Option.map_some, ofBytes_bytes]

theorem toChecksum_inj {a b : Address} : a.toChecksum = b.toChecksum ↔ a = b := by
  constructor
  · intro h
    have hb := parse?_toChecksum b
    rw [← h, parse?_toChecksum] at hb
    exact Option.some.inj hb
  · rintro rfl
    rfl

end Address
end StakingIndexer
