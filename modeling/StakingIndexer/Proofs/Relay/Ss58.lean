import Mathlib
import StakingIndexer.Proofs.Text.Base58
import StakingIndexer.Relay.Ss58

/-!
# Addresses keep keys and formats

The bytes of a format say how many they are, the checksum has always two bytes, and base58
keeps all of them. So a key and the lowest 14 bits of a format are read back from an address,
whatever the digest is.
-/

namespace StakingIndexer

namespace Hash

theorem length_foldl {α β : Type} {f : List α → β → List α}
    (h : ∀ v b, (f v b).length = v.length) (l : List β) (v : List α) :
    (l.foldl f v).length = v.length := by
  induction l generalizing v with
  | nil => rfl
  | cons b l ih => rw [List.foldl_cons, ih, h]

namespace Blake2b

theorem length_round (m v : List UInt64) (order : List Nat) :
    (round m v order).length = v.length := by
  unfold round
  exact length_foldl (fun v line => by simp [mix]) _ v

theorem length_compress {h : List UInt64} (hlength : h.length = 8) (block : Bytes) (count : Nat)
    (last : Bool) : (compress h block count last).length = 8 := by
  unfold compress
  have hinitial : initial.length = 8 := rfl
  simp [length_foldl (length_round _), hlength, hinitial]

theorem length_absorb {h : List UInt64} (hlength : h.length = 8) (message : Bytes) (count : Nat) :
    (absorb h message count).length = 8 := by
  fun_induction absorb h message count with
  | case1 h message count hshort => exact length_compress hlength _ _ _
  | case2 h message count hlong ih => exact ih (length_compress hlength _ _ _)

end Blake2b

theorem length_blake2b (size : Nat) (message : Bytes) :
    (blake2b size message).length = min size 64 := by
  unfold blake2b
  have hinitial : Blake2b.initial.length = 8 := rfl
  simp only [List.length_take, List.length_flatMap, Bytes.length_ofNatLE, List.map_const',
    List.sum_replicate]
  rw [Blake2b.length_absorb (by simp [hinitial])]
  rfl

end Hash

namespace Ss58

theorem length_checksum (payload : Bytes) : (checksum payload).length = 2 := by
  rw [checksum, List.length_take, Hash.length_blake2b]
  rfl

theorem formatOf_eq (n : UInt16) : formatOf n = (n &&& 16383).toNat := by
  rw [UInt16.toNat_and]
  exact (Nat.and_two_pow_sub_one_eq_mod n.toNat 14).symm

theorem formatOf_lt (n : UInt16) : formatOf n < 2 ^ 14 := Nat.mod_lt _ (by decide)

theorem ofTwoBytes_twoBytes {format : Nat} (h : format < 2 ^ 14) :
    ∃ first second : UInt8, twoBytes format = [first, second] ∧
      64 ≤ first.toNat ∧ first.toNat < 128 ∧ ofTwoBytes first second = format := by
  have hsize : UInt8.size = 256 := rfl
  have hfirst : (UInt8.ofNat (64 + format % 256 / 4)).toNat = 64 + format % 256 / 4 :=
    UInt8.toNat_ofNat_of_lt' (by omega)
  have hsecond : (UInt8.ofNat (format / 256 + format % 4 * 64)).toNat
      = format / 256 + format % 4 * 64 := UInt8.toNat_ofNat_of_lt' (by omega)
  refine ⟨_, _, rfl, ?_, ?_, ?_⟩
  · omega
  · omega
  · have hupper : format / 256 < 64 := by omega
    have hlow : (format / 256 + format % 4 * 64) / 64 = format % 4 := by omega
    have hhigh : (format / 256 + format % 4 * 64) % 64 = format / 256 := by omega
    rw [ofTwoBytes, hfirst, hsecond, hlow, hhigh]
    omega

theorem twoBytes_ofTwoBytes {first : UInt8} (hge : 64 ≤ first.toNat) (hlt : first.toNat < 128)
    (second : UInt8) :
    ofTwoBytes first second < 2 ^ 14 ∧ twoBytes (ofTwoBytes first second) = [first, second] := by
  have hsecond := second.toNat_lt
  have hlower : ofTwoBytes first second % 256 = (first.toNat - 64) * 4 + second.toNat / 64 := by
    rw [ofTwoBytes, Nat.add_mul_mod_self_right, Nat.mod_eq_of_lt (by omega)]
  have hhigh : ofTwoBytes first second / 256 = second.toNat % 64 := by
    unfold ofTwoBytes
    omega
  have hupper : ofTwoBytes first second % 256 / 4 = first.toNat - 64 := by omega
  have hmiddle : ofTwoBytes first second % 4 = second.toNat / 64 := by omega
  have hfirst : 64 + (first.toNat - 64) = first.toNat := by omega
  have hrest : second.toNat % 64 + second.toNat / 64 * 64 = second.toNat := by omega
  refine ⟨by omega, ?_⟩
  rw [twoBytes, hupper, hmiddle, hhigh, hfirst, hrest, UInt8.ofNat_toNat, UInt8.ofNat_toNat]

/-- The bytes that spell a format: one for those below 64, two for each of 14 bits. -/
inductive FormatSpelling : Nat → Bytes → Prop
  | one {format : Nat} (h : format < 64) : FormatSpelling format [UInt8.ofNat format]
  | two {format : Nat} (h : format ≤ 16383) : FormatSpelling format (twoBytes format)

theorem readFormat_one {first : UInt8} (h : first.toNat < 64) (rest : Bytes) :
    readFormat (first :: rest) = .ok (first.toNat, 1) :=
  if_pos (UInt8.lt_iff_toNat_lt.2 h)

theorem readFormat_two {first : UInt8} (hge : 64 ≤ first.toNat) (hlt : first.toNat < 128)
    (second : UInt8) (rest : Bytes) :
    readFormat (first :: second :: rest) = .ok (ofTwoBytes first second, 2) := by
  have hfirst : ¬ first < 64 := UInt8.not_lt.2 (UInt8.le_iff_toNat_le.2 hge)
  have hupper : first < 128 := UInt8.lt_iff_toNat_lt.2 hlt
  rw [readFormat, if_neg hfirst, if_pos hupper]

theorem readFormat_cut {first : UInt8} (hge : 64 ≤ first.toNat) (hlt : first.toNat < 128) :
    readFormat [first] = .error (.length 1) := by
  have hfirst : ¬ first < 64 := UInt8.not_lt.2 (UInt8.le_iff_toNat_le.2 hge)
  have hupper : first < 128 := UInt8.lt_iff_toNat_lt.2 hlt
  rw [readFormat, if_neg hfirst, if_pos hupper]

theorem readFormat_reserved {first : UInt8} (h : 128 ≤ first.toNat) (rest : Bytes) :
    readFormat (first :: rest) = .error .format := by
  have hlarge : ¬ first < 128 := UInt8.not_lt.2 (UInt8.le_iff_toNat_le.2 h)
  have hfirst : ¬ first < 64 := fun hlt => hlarge (UInt8.lt_trans hlt (by decide))
  exact (if_neg hfirst).trans (if_neg hlarge)

namespace FormatSpelling

theorem le {format : Nat} {front : Bytes} (h : FormatSpelling format front) : format ≤ 16383 := by
  cases h <;> omega

/-- The bytes of a format are told from what is behind them. -/
theorem readFormat {format : Nat} {front : Bytes} (h : FormatSpelling format front)
    (rest : Bytes) : readFormat (front ++ rest) = .ok (format, front.length) := by
  cases h with
  | one h =>
    have hbyte : (UInt8.ofNat format).toNat = format :=
      UInt8.toNat_ofNat_of_lt' (Nat.lt_trans h (by decide))
    rw [List.cons_append, readFormat_one (by omega), hbyte]
    rfl
  | two h =>
    obtain ⟨first, second, hbytes, hge, hlt, hformat⟩ :=
      ofTwoBytes_twoBytes (Nat.lt_succ_of_le h)
    rw [hbytes, List.cons_append, List.cons_append, readFormat_two hge hlt, hformat]
    rfl

end FormatSpelling

theorem formatSpelling_formatBytes {format : Nat} (h : format < 2 ^ 14) :
    FormatSpelling format (formatBytes format) := by
  unfold formatBytes
  split_ifs with hsmall
  · exact .one hsmall
  · exact .two (by omega)

theorem ofBytes?_bytes (key : AccountId) : AccountId.ofBytes? key.bytes = some key := by
  rw [AccountId.ofBytes?, dif_pos key.length_bytes]

theorem decode_of_readFormat {s : String} {bs : Bytes} {format width : Nat}
    (hbytes : Base58.decode s = .ok bs) (hread : readFormat bs = .ok (format, width)) :
    decode s =
      if bs.length ≠ width + 34 then .error (.length bs.length)
      else if bs.drop (width + 32) ≠ checksum (bs.take (width + 32)) then .error .checksum
      else match AccountId.ofBytes? ((bs.take (width + 32)).drop width) with
        | some key => .ok (key, UInt16.ofNat format)
        | none => .error (.length bs.length) := by
  unfold decode
  rw [hbytes]
  change (readFormat bs >>= _) = _
  rw [hread]
  simp only [bind, Except.bind]
  split_ifs <;> rfl

theorem decode_of_readFormat_error {s : String} {bs : Bytes} {fault : DecodeError}
    (hbytes : Base58.decode s = .ok bs) (hread : readFormat bs = .error fault) :
    decode s = .error fault := by
  unfold decode
  rw [hbytes]
  change (readFormat bs >>= _) = _
  rw [hread]
  rfl

theorem decode_of_base58_error {s : String} {cause : Base58.DecodeError}
    (h : Base58.decode s = .error cause) : decode s = .error (.base58 cause) := by
  unfold decode
  rw [h]
  rfl

theorem decode_of_bytes {s : String} {front : Bytes} {key : AccountId} {format : Nat}
    (hbytes : Base58.decode s = .ok (front ++ key.bytes ++ checksum (front ++ key.bytes)))
    (hformat : ∀ rest, readFormat (front ++ rest) = .ok (format, front.length)) :
    decode s = .ok (key, UInt16.ofNat format) := by
  have hpayload : (front ++ key.bytes).length = front.length + 32 := by
    rw [List.length_append, key.length_bytes]
  have hlength : (front ++ key.bytes ++ checksum (front ++ key.bytes)).length
      = front.length + 34 := by
    rw [List.length_append, hpayload, length_checksum]
  have hread := hformat (key.bytes ++ checksum (front ++ key.bytes))
  rw [← List.append_assoc] at hread
  rw [decode_of_readFormat hbytes hread, if_neg (not_not.2 hlength), List.take_left' hpayload,
    List.drop_left' hpayload, if_neg (by simp), List.drop_left, ofBytes?_bytes]

theorem decode_encode (key : AccountId) (format : UInt16) :
    decode (encode key format) = .ok (key, format &&& 16383) := by
  have hformat : UInt16.ofNat (formatOf format) = format &&& 16383 := by
    rw [formatOf_eq, UInt16.ofNat_toNat]
  rw [← hformat]
  exact decode_of_bytes (Base58.decode_encode _)
    (formatSpelling_formatBytes (formatOf_lt format)).readFormat

/-- Key and format, of which the 14 lowest bits count, are read back from their address. So two
addresses are equal just when their keys and formats are. -/
theorem address_roundTrip (key : AccountId) (format : UInt16) :
    decode (encode key format) = .ok (key, format &&& 16383) ∧
      ∀ key' format', encode key format = encode key' format' ↔
        (key, format &&& 16383) = (key', format' &&& 16383) := by
  refine ⟨decode_encode key format, fun key' format' => ⟨fun h => ?_, fun h => ?_⟩⟩
  · have hsame := decode_encode key format
    rw [h, decode_encode key' format'] at hsame
    exact (Except.ok.inj hsame).symm
  · obtain ⟨rfl, hformat⟩ := Prod.mk.inj h
    rw [encode, encode, formatOf_eq, formatOf_eq, hformat]

end Ss58
end StakingIndexer
