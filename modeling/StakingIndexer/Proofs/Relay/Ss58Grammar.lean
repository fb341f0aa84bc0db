import Mathlib
import StakingIndexer.Proofs.Relay.Ss58

/-!
# The grammar of addresses

An address is the base58 text of a format, a key and their checksum. Formats below 64 have two
spellings, of which the longer one is read but never written. What is wrong with any other text
is told by its bytes alone: no two of the faults can be found in one byte string.
-/

namespace StakingIndexer
namespace Ss58

/-- How many bytes a format takes, told by its first one. -/
def formatWidth (first : UInt8) : Nat := if first.toNat < 64 then 1 else 2

/-- The bytes of an address whose format is spelled by its front. -/
def addressBytes (front : Bytes) (key : AccountId) : Bytes :=
  front ++ key.bytes ++ checksum (front ++ key.bytes)

theorem length_addressBytes (front : Bytes) (key : AccountId) :
    (addressBytes front key).length = front.length + 34 := by
  rw [addressBytes, List.length_append, List.length_append, key.length_bytes, length_checksum]

/-- What a byte string is read as, with the first fault that is found in it. -/
inductive Verdict : Bytes → Except DecodeError (AccountId × UInt16) → Prop
  | empty : Verdict [] (.error (.length 0))
  | reserved {first : UInt8} {rest : Bytes} (hfirst : 128 ≤ first.toNat) :
    Verdict (first :: rest) (.error .format)
  | misfit {first : UInt8} {rest : Bytes} (hfirst : first.toNat < 128)
    (hlength : (first :: rest).length ≠ formatWidth first + 34) :
    Verdict (first :: rest) (.error (.length (first :: rest).length))
  | corrupted {format : Nat} {front body sum : Bytes} (hfront : FormatSpelling format front)
    (hbody : body.length = 32) (hsum : sum.length = 2) (hne : sum ≠ checksum (front ++ body)) :
    Verdict (front ++ body ++ sum) (.error .checksum)
  | address {format : UInt16} {front : Bytes} {key : AccountId}
    (hfront : FormatSpelling format.toNat front) :
    Verdict (addressBytes front key) (.ok (key, format))

theorem exists_front {first : UInt8} {rest : Bytes} (hfirst : first.toNat < 128)
    (hlength : (first :: rest).length = formatWidth first + 34) :
    ∃ format front body sum, FormatSpelling format front ∧ body.length = 32 ∧ sum.length = 2 ∧
      first :: rest = front ++ body ++ sum := by
  -- what is behind the format is cut behind the key
  have hcut : ∀ front behind : Bytes, front ++ behind
      = front ++ behind.take 32 ++ behind.drop 32 := by
    intro front behind
    rw [List.append_assoc, List.take_append_drop]
  unfold formatWidth at hlength
  split_ifs at hlength with hsmall
  · have hrest : rest.length = 34 := by simpa using hlength
    have hfront := FormatSpelling.one hsmall
    rw [UInt8.ofNat_toNat] at hfront
    exact ⟨_, _, _, _, hfront, by simp [hrest], by simp [hrest], hcut [first] rest⟩
  · cases rest with
    | nil => simp at hlength
    | cons second rest =>
      have hrest : rest.length = 34 := by simpa using hlength
      obtain ⟨hformat, htwo⟩ := twoBytes_ofTwoBytes (Nat.not_lt.1 hsmall) hfirst second
      have hfront := FormatSpelling.two (Nat.le_of_lt_succ hformat)
      rw [htwo] at hfront
      exact ⟨_, _, _, _, hfront, by simp [hrest], by simp [hrest],
        hcut [first, second] rest⟩

theorem exists_verdict (bs : Bytes) : ∃ answer, Verdict bs answer := by
  cases bs with
  | nil => exact ⟨_, .empty⟩
  | cons first rest =>
    by_cases hfirst : first.toNat < 128
    · by_cases hlength : (first :: rest).length = formatWidth first + 34
      · obtain ⟨format, front, body, sum, hfront, hbody, hsum, hbytes⟩ :=
          exists_front hfirst hlength
        rw [hbytes]
        by_cases hchecksum : sum = checksum (front ++ body)
        · have hformat : (UInt16.ofNat format).toNat = format :=
            UInt16.toNat_ofNat_of_lt' (Nat.lt_of_le_of_lt hfront.le (by decide))
          have haddress : Verdict (addressBytes front ⟨body, hbody⟩)
              (.ok (_, UInt16.ofNat format)) := .address (hformat.symm ▸ hfront)
          rw [hchecksum]
          exact ⟨_, haddress⟩
        · exact ⟨_, .corrupted hfront hbody hsum hchecksum⟩
      · exact ⟨_, .misfit hfirst hlength⟩
    · exact ⟨_, .reserved (Nat.not_lt.1 hfirst)⟩

theorem Verdict.decode {s : String} {bs : Bytes} {answer : Except DecodeError (AccountId × UInt16)}
    (h : Verdict bs answer) (hs : Base58.Spells s bs) : decode s = answer := by
  have hbytes := Base58.decode_eq_ok_iff.2 hs
  cases h with
  | empty => exact decode_of_readFormat_error hbytes rfl
  | reserved hfirst => exact decode_of_readFormat_error hbytes (readFormat_reserved hfirst _)
  | @misfit first rest hfirst hlength =>
    unfold formatWidth at hlength
    split_ifs at hlength with hsmall
    · rw [decode_of_readFormat hbytes (readFormat_one hsmall rest), if_pos hlength]
    · cases rest with
      | nil => exact decode_of_readFormat_error hbytes (readFormat_cut (Nat.not_lt.1 hsmall) hfirst)
      | cons second rest =>
        rw [decode_of_readFormat hbytes (readFormat_two (Nat.not_lt.1 hsmall) hfirst second rest),
          if_pos hlength]
  | @corrupted format front body sum hfront hbody hsum hne =>
    have hpayload : (front ++ body).length = front.length + 32 := by
      rw [List.length_append, hbody]
    have hlength : (front ++ body ++ sum).length = front.length + 34 := by
      rw [List.length_append, hpayload, hsum]
    have hread := hfront.readFormat (body ++ sum)
    rw [← List.append_assoc] at hread
    rw [decode_of_readFormat hbytes hread, if_neg (not_not.2 hlength), List.take_left' hpayload,
      List.drop_left' hpayload, if_pos hne]
  | address hfront => rw [decode_of_bytes hbytes hfront.readFormat, UInt16.ofNat_toNat]

/-- A text that spells bytes is answered by the verdict on them, and by nothing else. -/
theorem decode_eq_iff_verdict {s : String} {bs : Bytes} (hs : Base58.Spells s bs)
    {answer : Except DecodeError (AccountId × UInt16)} : decode s = answer ↔ Verdict bs answer := by
  constructor
  · rintro rfl
    obtain ⟨answer, h⟩ := exists_verdict bs
    rwa [h.decode hs]
  · exact fun h => h.decode hs

theorem decode_base58_iff (s : String) :
    (∃ cause, decode s = .error (.base58 cause)) ↔ ∃ c ∈ s.toList, c ∉ Base58.alphabet := by
  rw [← Base58.exists_decode_error_iff]
  constructor
  · rintro ⟨cause, h⟩
    rcases Base58.decode_cases s with ⟨bs, hs, -⟩ | ⟨before, c, rest, -, -, -, hdecode⟩
    · cases (decode_eq_iff_verdict hs).1 h
    · exact ⟨_, hdecode⟩
  · rintro ⟨cause, h⟩
    exact ⟨cause, decode_of_base58_error h⟩

theorem decode_ok_iff (s : String) (key : AccountId) (format : UInt16) :
    decode s = .ok (key, format) ↔
      ∃ front, FormatSpelling format.toNat front ∧ Base58.Spells s (addressBytes front key) := by
  constructor
  · intro h
    rcases Base58.decode_cases s with ⟨bs, hs, -⟩ | ⟨before, c, rest, -, -, -, hdecode⟩
    · cases (decode_eq_iff_verdict hs).1 h with
      | address hfront => exact ⟨_, hfront, hs⟩
    · rw [decode_of_base58_error hdecode] at h
      cases h
  · rintro ⟨front, hfront, hs⟩
    exact (Verdict.address hfront).decode hs

theorem encode_eq_iff {s : String} {key : AccountId} {format : UInt16}
    (h : format.toNat ≤ 16383) :
    encode key format = s ↔ Base58.Spells s (addressBytes (formatBytes format.toNat) key) := by
  have hformat : formatOf format = format.toNat := Nat.mod_eq_of_lt (Nat.lt_succ_of_le h)
  rw [Base58.spells_iff, addressBytes, encode, hformat]

/-- What is read from an address is written as another text just when the address spells a
format below 64 with two bytes. -/
theorem encode_ne_iff {s : String} {key : AccountId} {format : UInt16}
    (h : decode s = .ok (key, format)) :
    encode key format ≠ s ↔
      format.toNat < 64 ∧ Base58.Spells s (addressBytes (twoBytes format.toNat) key) := by
  obtain ⟨front, hfront, hs⟩ := (decode_ok_iff s key format).1 h
  -- the two spellings of a format differ in length
  have hwidths : addressBytes [UInt8.ofNat format.toNat] key
      ≠ addressBytes (twoBytes format.toNat) key := by
    intro heq
    have hlength := congrArg List.length heq
    rw [length_addressBytes, length_addressBytes] at hlength
    cases hlength
  rw [Ne, encode_eq_iff hfront.le]
  unfold formatBytes
  cases hfront with
  | one hsmall =>
    rw [if_pos hsmall]
    exact iff_of_false (not_not.2 hs) fun hlong => hwidths (hs.unique hlong.2)
  | two _ =>
    split_ifs with hsmall
    · exact iff_of_true (fun hshort => hwidths (hshort.unique hs)) ⟨hsmall, hs⟩
    · exact iff_of_false (not_not.2 hs) fun hlong => hsmall hlong.1

/-- The bytes that a text spells decide between the other faults. -/
theorem decode_fault_iff {s : String} {bs : Bytes} (hs : Base58.Spells s bs) :
    (∀ n, decode s = .error (.length n) ↔ n = bs.length ∧
      (bs = [] ∨ ∃ first rest, bs = first :: rest ∧ first.toNat < 128 ∧
        bs.length ≠ formatWidth first + 34)) ∧
    (decode s = .error .format ↔ ∃ first rest, bs = first :: rest ∧ 128 ≤ first.toNat) ∧
    (decode s = .error .checksum ↔ ∃ format front body sum, FormatSpelling format front ∧
      bs = front ++ body ++ sum ∧ body.length = 32 ∧ sum.length = 2 ∧
        sum ≠ checksum (front ++ body)) := by
  simp only [decode_eq_iff_verdict hs]
  refine ⟨fun n => ⟨fun h => ?_, ?_⟩, ⟨fun h => ?_, ?_⟩, ⟨fun h => ?_, ?_⟩⟩
  · cases h with
    | empty => exact ⟨rfl, .inl rfl⟩
    | misfit hfirst hlength => exact ⟨rfl, .inr ⟨_, _, rfl, hfirst, hlength⟩⟩
  · rintro ⟨rfl, rfl | ⟨first, rest, rfl, hfirst, hlength⟩⟩
    · exact .empty
    · exact .misfit hfirst hlength
  · cases h with
    | reserved hfirst => exact ⟨_, _, rfl, hfirst⟩
  · rintro ⟨first, rest, rfl, hfirst⟩
    exact .reserved hfirst
  · cases h with
    | corrupted hfront hbody hsum hne => exact ⟨_, _, _, _, hfront, rfl, hbody, hsum, hne⟩
  · rintro ⟨format, front, body, sum, hfront, rfl, hbody, hsum, hne⟩
    exact .corrupted hfront hbody hsum hne

/-- A text is accepted just when it spells a format, a key and the checksum of both, with the
format in one byte or in two. What was read is written as the same text, unless a format below 64
took two bytes. A text that is not accepted holds a foreign character, or spells too few or too
many bytes behind a format, or bytes that start no format, or the checksum of something else. -/
theorem decode_grammar (s : String) :
    (∀ key format, decode s = .ok (key, format) ↔
      ∃ front, FormatSpelling format.toNat front ∧ Base58.Spells s (addressBytes front key)) ∧
    (∀ key format, decode s = .ok (key, format) →
      (encode key format ≠ s ↔
        format.toNat < 64 ∧ Base58.Spells s (addressBytes (twoBytes format.toNat) key))) ∧
    ((∃ cause, decode s = .error (.base58 cause)) ↔ ∃ c ∈ s.toList, c ∉ Base58.alphabet) ∧
    ∀ bs, Base58.Spells s bs →
      (∀ n, decode s = .error (.length n) ↔ n = bs.length ∧
        (bs = [] ∨ ∃ first rest, bs = first :: rest ∧ first.toNat < 128 ∧
          bs.length ≠ formatWidth first + 34)) ∧
      (decode s = .error .format ↔ ∃ first rest, bs = first :: rest ∧ 128 ≤ first.toNat) ∧
      (decode s = .error .checksum ↔ ∃ format front body sum, FormatSpelling format front ∧
        bs = front ++ body ++ sum ∧ body.length = 32 ∧ sum.length = 2 ∧
          sum ≠ checksum (front ++ body)) :=
  ⟨decode_ok_iff s, fun _ _ h => encode_ne_iff h, decode_base58_iff s,
    fun _ hs => decode_fault_iff hs⟩

def longAddress : String := Base58.encode (addressBytes (twoBytes 5) (AccountId.ofNat 0))

theorem decode_grammar_longAddress :
    decode longAddress = .ok (AccountId.ofNat 0, 5) ∧
      encode (AccountId.ofNat 0) 5 ≠ longAddress ∧
      (∃ cause, decode "0" = .error (.base58 cause)) ∧
      decode "" = .error (.length 0) ∧
      decode (Base58.encode [200]) = .error .format := by
  have hspelled : Base58.Spells longAddress (addressBytes (twoBytes 5) (AccountId.ofNat 0)) :=
    Base58.spells_encode _
  have hread := ((decode_grammar longAddress).1 (AccountId.ofNat 0) 5).2
    ⟨twoBytes 5, .two (by decide), hspelled⟩
  have hempty : Base58.Spells "" [] := ⟨[], by simp, rfl, rfl, rfl⟩
  refine ⟨hread, ?_, ?_, ?_, ?_⟩
  · exact ((decode_grammar _).2.1 _ _ hread).2 ⟨by decide, hspelled⟩
  · exact (decode_grammar "0").2.2.1.2 ⟨'0', by decide, by decide⟩
  · exact (((decode_grammar "").2.2.2 [] hempty).1 0).2 ⟨rfl, .inl rfl⟩
  · exact ((decode_grammar _).2.2.2 _ (Base58.spells_encode [200])).2.1.2
      ⟨200, [], rfl, by decide⟩

end Ss58
end StakingIndexer
