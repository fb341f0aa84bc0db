import Mathlib
import StakingIndexer.Bytes.Lemmas
import StakingIndexer.Text.Base58

/-!
# Base58 keeps bytes

Digits of a base spell a number behind leading zeros, and both can be told from the digits. A
byte string is therefore read back from the digits of its number in another base, since its
leading zeros are carried over. A text of letters alone spells exactly one byte string, which it
is read as; any other text is refused at its first character that is no letter.
-/

namespace StakingIndexer
namespace Base58

theorem digits_eq {base : Nat} (hb : 2 ≤ base) (n : Nat) : digits base n = Nat.digits base n := by
  induction n using Nat.strongRecOn with
  | _ n ih =>
    unfold digits
    split_ifs with h
    · have hn : n = 0 := by omega
      rw [hn, Nat.digits_zero]
    · have hn : 0 < n := by omega
      rw [Nat.digits_def' hb hn, ih (n / base) (Nat.div_lt_self hn hb)]

theorem ofDigits_eq (base : Nat) (ds : List Nat) : ofDigits base ds = Nat.ofDigits base ds := by
  induction ds with
  | nil => rfl
  | cons d ds ih => rw [ofDigits, ih, Nat.ofDigits_cons]

/-- The digits of a number behind leading zeros, most significant first. -/
def numeral (base zeros n : Nat) : List Nat := List.replicate zeros 0 ++ (digits base n).reverse

def leadingZeros (ds : List Nat) : Nat := (ds.takeWhile (· == 0)).length

variable {base : Nat} (hb : 2 ≤ base)
include hb

theorem lt_of_mem_numeral {zeros n d : Nat} (h : d ∈ numeral base zeros n) : d < base := by
  rcases List.mem_append.1 h with h | h
  · have hd := List.eq_of_mem_replicate h
    omega
  · rw [List.mem_reverse, digits_eq hb] at h
    exact Nat.digits_lt_base hb h

theorem leadingZeros_numeral (zeros n : Nat) : leadingZeros (numeral base zeros n) = zeros := by
  have hhead : (digits base n).reverse.takeWhile (· == 0) = [] := by
    rw [digits_eq hb]
    by_cases hn : n = 0
    · simp [hn]
    · have hne : Nat.digits base n ≠ [] := Nat.digits_ne_nil_iff_ne_zero.2 hn
      have hlast := Nat.getLast_digit_ne_zero base hn
      rw [List.takeWhile_eq_nil_iff]
      intro hlength
      simpa [List.getElem_reverse, List.getLast_eq_getElem] using hlast
  rw [leadingZeros, numeral, List.takeWhile_append_of_pos, hhead]
  · simp
  · intro d hd
    simpa using List.eq_of_mem_replicate hd

theorem ofDigits_numeral (zeros n : Nat) : ofDigits base (numeral base zeros n).reverse = n := by
  rw [numeral, List.reverse_append, List.reverse_reverse, List.reverse_replicate, ofDigits_eq,
    Nat.ofDigits_append_replicate_zero, ← ofDigits_eq, ofDigits_digits hb]

/-- Digits are told by their number and their leading zeros. -/
theorem numeral_of_digits {ds : List Nat} (h : ∀ d ∈ ds, d < base) :
    numeral base (leadingZeros ds) (ofDigits base ds.reverse) = ds := by
  induction ds with
  | nil => simp [numeral, leadingZeros, ofDigits, digits]
  | cons d ds ih =>
    have hds : ∀ e ∈ ds, e < base := fun e he => h e (by simp [he])
    by_cases hd : d = 0
    · -- a leading zero does not change the number
      have hnumber : ofDigits base (0 :: ds).reverse = ofDigits base ds.reverse := by
        rw [List.reverse_cons, ofDigits_eq, ofDigits_eq]
        simp [Nat.ofDigits_append]
      have hzeros : leadingZeros (0 :: ds) = leadingZeros ds + 1 := by simp [leadingZeros]
      subst hd
      rw [hnumber, hzeros, numeral, List.replicate_succ, List.cons_append]
      exact congrArg _ (ih hds)
    · have hzeros : leadingZeros (d :: ds) = 0 := by simp [leadingZeros, hd]
      rw [hzeros, numeral, digits_eq hb, ofDigits_eq, Nat.digits_ofDigits base hb]
      · simp
      · intro e he
        exact h e (List.mem_reverse.1 he)
      · intro hne
        simpa using hd

omit hb in
theorem digit?_letter {d : Nat} (h : d < 58) :
    digit? (letter d) = some d ∧ (letter d).toNat < 128 := by
  revert d
  decide +kernel

omit hb in
theorem readDigits_cons_letter (position : Nat) {d : Nat} (h : d < 58) (cs : List Char) :
    readDigits position (letter d :: cs) = (readDigits (position + 1) cs).map (d :: ·) := by
  obtain ⟨hdigit, hascii⟩ := digit?_letter h
  rw [readDigits, if_neg (Nat.not_le.2 hascii), hdigit]

omit hb in
theorem readDigits_letters (position : Nat) {ds : List Nat} (h : ∀ d ∈ ds, d < 58) :
    readDigits position (ds.map letter) = .ok ds := by
  induction ds generalizing position with
  | nil => rfl
  | cons d ds ih =>
    have hrest := ih (position + 1) fun e he => h e (by simp [he])
    rw [List.map_cons, readDigits_cons_letter position (h d (by simp)), hrest]
    rfl

omit hb

theorem toNatBE_eq (bs : Bytes) : Bytes.toNatBE bs = ofDigits 256 (bs.map UInt8.toNat).reverse := by
  have hlittle : ∀ bs : Bytes, Bytes.toNatLE bs = ofDigits 256 (bs.map UInt8.toNat) := by
    intro bs
    induction bs with
    | nil => rfl
    | cons b bs ih => rw [Bytes.toNatLE, ih, List.map_cons, ofDigits]
  rw [← bs.reverse_reverse, Bytes.toNatBE_reverse, hlittle, bs.reverse_reverse, List.map_reverse]

theorem leadingZeros_map (bs : Bytes) :
    leadingZeros (bs.map UInt8.toNat) = (bs.takeWhile (· == 0)).length := by
  have hzero : (fun b : UInt8 => b.toNat == 0) = (· == 0) := by
    funext b
    rw [Bool.eq_iff_iff, beq_iff_eq, beq_iff_eq, ← UInt8.toNat_inj]
    rfl
  rw [leadingZeros, List.takeWhile_map, List.length_map]
  exact congrArg (fun p => (bs.takeWhile p).length) hzero

def ofBytes (bs : Bytes) : List Nat :=
  numeral 58 (leadingZeros (bs.map UInt8.toNat)) (ofDigits 256 (bs.map UInt8.toNat).reverse)

theorem encode_eq (bs : Bytes) : encode bs = String.ofList ((ofBytes bs).map letter) := by
  have hone : letter 0 = '1' := by decide
  unfold encode
  dsimp only
  rw [ofBytes, numeral, List.map_append, List.map_replicate, hone, leadingZeros_map, toNatBE_eq,
    List.map_const']

theorem decode_letters {ds : List Nat} (h : ∀ d ∈ ds, d < 58) :
    decode (String.ofList (ds.map letter))
      = .ok ((numeral 256 (leadingZeros ds) (ofDigits 58 ds.reverse)).map UInt8.ofNat) := by
  unfold decode
  rw [String.toList_ofList, readDigits_letters 0 h]
  change Except.ok ((ds.takeWhile (· == 0)).map (fun _ => 0) ++ _) = _
  rw [numeral, List.map_append, List.map_replicate, List.map_const', leadingZeros]
  rfl

theorem decode_encode (bs : Bytes) : decode (encode bs) = .ok bs := by
  have hbytes : ∀ d ∈ bs.map UInt8.toNat, d < 256 := by
    intro d hd
    obtain ⟨b, -, rfl⟩ := List.mem_map.1 hd
    exact b.toNat_lt
  have hdigits : ∀ d ∈ ofBytes bs, d < 58 := fun d hd => lt_of_mem_numeral (by decide) hd
  rw [encode_eq, decode_letters hdigits, ofBytes, leadingZeros_numeral (by decide),
    ofDigits_numeral (by decide), numeral_of_digits (by decide) hbytes, List.map_map]
  have hbyte : UInt8.ofNat ∘ UInt8.toNat = id := funext fun _ => UInt8.ofNat_toNat
  rw [hbyte, List.map_id]

theorem mem_alphabet_iff {c : Char} : c ∈ alphabet ↔ ∃ d < 58, letter d = c := by
  have hlength : alphabet.length = 58 := by decide
  rw [List.mem_iff_getElem]
  constructor
  · rintro ⟨d, hd, rfl⟩
    exact ⟨d, hlength ▸ hd, List.getD_eq_getElem _ _ hd⟩
  · rintro ⟨d, hd, rfl⟩
    exact ⟨d, hlength ▸ hd, (List.getD_eq_getElem _ _ _).symm⟩

theorem digit?_eq_none {c : Char} (h : c ∉ alphabet) : digit? c = none := by
  rw [digit?, List.findIdx?_eq_none_iff]
  intro x hx
  rw [beq_eq_false_iff_ne]
  rintro rfl
  exact h hx

def foreign (c : Char) (position : Nat) : DecodeError :=
  if 128 ≤ c.toNat then .nonAscii position else .invalidCharacter c position

theorem readDigits_cons_foreign (position : Nat) {c : Char} (h : c ∉ alphabet) (cs : List Char) :
    readDigits position (c :: cs) = .error (foreign c position) := by
  rw [readDigits, digit?_eq_none h, foreign]
  split_ifs <;> rfl

/-- Reading digits ends with those of all letters, or at the first character that is none. -/
theorem readDigits_cases (position : Nat) (cs : List Char) :
    (∃ ds : List Nat, (∀ d ∈ ds, d < 58) ∧ cs = ds.map letter) ∨
      ∃ before c rest, (∀ x ∈ before, x ∈ alphabet) ∧ c ∉ alphabet ∧ cs = before ++ c :: rest ∧
        readDigits position cs = .error (foreign c (position + before.length)) := by
  induction cs generalizing position with
  | nil => exact .inl ⟨[], by simp, rfl⟩
  | cons c cs ih =>
    by_cases hc : c ∈ alphabet
    · obtain ⟨d, hd, rfl⟩ := mem_alphabet_iff.1 hc
      rcases ih (position + 1) with ⟨ds, hds, rfl⟩ | ⟨before, x, rest, hbefore, hx, rfl, hread⟩
      · exact .inl ⟨d :: ds, by simpa [hd] using hds, rfl⟩
      · refine .inr ⟨letter d :: before, x, rest, by simpa [hc] using hbefore, hx, rfl, ?_⟩
        rw [readDigits_cons_letter position hd, hread, List.length_cons, Nat.add_right_comm,
          Nat.add_assoc]
        rfl
    · exact .inr ⟨[], c, cs, by simp, hc, rfl, readDigits_cons_foreign position hc cs⟩

/-- A text spells a byte string: its letters are the digits of the number that the bytes spell,
behind one first letter for each leading zero byte. -/
def Spells (s : String) (bs : Bytes) : Prop :=
  ∃ ds : List Nat, (∀ d ∈ ds, d < 58) ∧ s = String.ofList (ds.map letter) ∧
    leadingZeros ds = leadingZeros (bs.map UInt8.toNat) ∧
      ofDigits 58 ds.reverse = ofDigits 256 (bs.map UInt8.toNat).reverse

theorem spells_encode (bs : Bytes) : Spells (encode bs) bs := by
  refine ⟨ofBytes bs, fun d hd => lt_of_mem_numeral (by decide) hd, encode_eq bs, ?_, ?_⟩
  · exact leadingZeros_numeral (by decide) _ _
  · exact ofDigits_numeral (by decide) _ _

theorem Spells.eq_encode {s : String} {bs : Bytes} (h : Spells s bs) : s = encode bs := by
  obtain ⟨ds, hds, rfl, hzeros, hnumber⟩ := h
  rw [encode_eq, ofBytes, ← hzeros, ← hnumber, numeral_of_digits (by decide) hds]

theorem spells_iff {s : String} {bs : Bytes} : Spells s bs ↔ encode bs = s :=
  ⟨fun h => h.eq_encode.symm, fun h => h ▸ spells_encode bs⟩

theorem exists_bytes {ds : List Nat} (h : ∀ d ∈ ds, d < 256) :
    ∃ bs : Bytes, bs.map UInt8.toNat = ds := by
  refine ⟨ds.map UInt8.ofNat, ?_⟩
  rw [List.map_map]
  exact (List.map_congr_left fun d hd => UInt8.toNat_ofNat_of_lt' (h d hd)).trans (List.map_id ds)

theorem exists_spells {ds : List Nat} (h : ∀ d ∈ ds, d < 58) :
    ∃ bs, Spells (String.ofList (ds.map letter)) bs := by
  have hbytes : ∀ d ∈ numeral 256 (leadingZeros ds) (ofDigits 58 ds.reverse), d < 256 :=
    fun d hd => lt_of_mem_numeral (by decide) hd
  obtain ⟨bs, hbs⟩ := exists_bytes hbytes
  refine ⟨bs, ds, h, rfl, ?_, ?_⟩
  · rw [hbs, leadingZeros_numeral (by decide)]
  · rw [hbs, ofDigits_numeral (by decide)]

/-- A text is read as the bytes that it spells, or refused at its first foreign character. -/
theorem decode_cases (s : String) :
    (∃ bs, Spells s bs ∧ decode s = .ok bs) ∨
      ∃ before c rest, (∀ x ∈ before, x ∈ alphabet) ∧ c ∉ alphabet ∧
        s.toList = before ++ c :: rest ∧ decode s = .error (foreign c before.length) := by
  rcases readDigits_cases 0 s.toList with ⟨ds, hds, hs⟩ | ⟨before, c, rest, hbefore, hc, hs, hread⟩
  · left
    obtain ⟨bs, hspells⟩ := exists_spells hds
    rw [← hs, String.ofList_toList] at hspells
    exact ⟨bs, hspells, by rw [hspells.eq_encode, decode_encode]⟩
  · refine .inr ⟨before, c, rest, hbefore, hc, hs, ?_⟩
    rw [Nat.zero_add] at hread
    unfold decode
    rw [hread]
    rfl

theorem decode_eq_ok_iff {s : String} {bs : Bytes} : decode s = .ok bs ↔ Spells s bs := by
  constructor
  · intro h
    rcases decode_cases s with ⟨bytes, hspells, hdecode⟩ | ⟨before, c, rest, -, -, -, hdecode⟩
    · rw [h] at hdecode
      cases hdecode
      exact hspells
    · rw [h] at hdecode
      cases hdecode
  · intro h
    rw [h.eq_encode, decode_encode]

theorem Spells.unique {s : String} {bs bs' : Bytes} (h : Spells s bs) (h' : Spells s bs') :
    bs = bs' :=
  Except.ok.inj ((decode_eq_ok_iff.2 h).symm.trans (decode_eq_ok_iff.2 h'))

theorem exists_decode_error_iff {s : String} :
    (∃ cause, decode s = .error cause) ↔ ∃ c ∈ s.toList, c ∉ alphabet := by
  rcases decode_cases s with
    ⟨bs, ⟨ds, hds, rfl, -⟩, hdecode⟩ | ⟨before, c, rest, -, hc, hs, hdecode⟩
  · constructor
    · rintro ⟨cause, hcause⟩
      rw [hdecode] at hcause
      cases hcause
    · rintro ⟨c, hmem, hc⟩
      rw [String.toList_ofList, List.mem_map] at hmem
      obtain ⟨d, hd, rfl⟩ := hmem
      exact absurd (mem_alphabet_iff.2 ⟨d, hds d hd, rfl⟩) hc
  · exact ⟨fun _ => ⟨c, by simp [hs], hc⟩, fun _ => ⟨_, hdecode⟩⟩

end Base58
end StakingIndexer
