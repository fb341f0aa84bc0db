import Mathlib
import StakingIndexer.Proofs.Database.Cursors
import StakingIndexer.Proofs.Database.Row

/-!
# Records and their rows

A record has a row unless one of its words is no signed word, and it is read back from its row. A
row that can be read is the row of what is read from it, if its decimals are integers and its
addresses are spelled with their checksum. Only the spelling of the decimals may differ: a row that
is written holds integers without a fraction or an exponent.
-/

namespace StakingIndexer

namespace Decimal

/-- The number that a decimal spells. -/
def value (d : Decimal) : ℚ := d.mantissa * (10 : ℚ) ^ (-d.scale)

theorem value_ofInt (n : Int) : (ofInt n).value = n := by simp [value, ofInt]

theorem value_eq_trunc {d : Decimal} {n : Int} (h : d.value = n) : d.value = d.trunc := by
  obtain ⟨mantissa, scale⟩ := d
  cases scale with
  | ofNat s =>
    have hweight : (10 : ℚ) ^ s ≠ 0 := by positivity
    have hmantissa : mantissa = n * (10 : Int) ^ s := by
      have hquotient : (mantissa : ℚ) * ((10 : ℚ) ^ s)⁻¹ = n := by
        simpa [value, zpow_neg] using h
      have hproduct : (mantissa : ℚ) = n * (10 : ℚ) ^ s :=
        (mul_inv_eq_iff_eq_mul₀ hweight).1 hquotient
      exact_mod_cast hproduct
    have htrunc : trunc ⟨mantissa, .ofNat s⟩ = n := by
      have hpositive : ((10 ^ s : Nat) : Int) ≠ 0 := by positivity
      change mantissa.tdiv ((10 ^ s : Nat) : Int) = n
      rw [hmantissa]
      exact_mod_cast Int.mul_tdiv_cancel n hpositive
    rw [h, htrunc]
  | negSucc s =>
    have hscale : -Int.negSucc s = ((s + 1 : Nat) : Int) := rfl
    change (mantissa : ℚ) * (10 : ℚ) ^ (-Int.negSucc s)
      = ((mantissa * ((10 ^ (s + 1) : Nat) : Int) : Int) : ℚ)
    rw [hscale, zpow_natCast]
    push_cast
    ring

end Decimal

namespace Numeric

def value? : Numeric → Option ℚ
  | decimal d => some d.value
  | special => none

def IsInteger (n : Numeric) : Prop := ∃ k : Int, n.value? = some (k : ℚ)

theorem value?_ofAmount (a : Amount) : (ofAmount a).value? = some ((a.toNat : Int) : ℚ) :=
  congrArg some (Decimal.value_ofInt _)

theorem value?_ofSigned (a : SignedAmount) : (ofSigned a).value? = some (a.toInt : ℚ) :=
  congrArg some (Decimal.value_ofInt _)

theorem isInteger_ofAmount (a : Amount) : (ofAmount a).IsInteger := ⟨_, value?_ofAmount a⟩

theorem isInteger_ofSigned (a : SignedAmount) : (ofSigned a).IsInteger := ⟨_, value?_ofSigned a⟩

theorem value?_eq_trunc {d : Decimal} (h : (decimal d).IsInteger) :
    (decimal d).value? = some (d.trunc : ℚ) := by
  obtain ⟨k, hk⟩ := h
  exact congrArg some (Decimal.value_eq_trunc (Option.some.inj hk))

end Numeric

theorem Word.toInt_of_unsigned? {n : Int64} {w : UInt64} (h : unsigned? n = some w) :
    n.toInt = w.toNat := by
  unfold unsigned? at h
  split_ifs at h with hnonneg
  cases h
  have hnonneg : 0 ≤ n.toBitVec.toInt := Int64.le_iff_toInt_le.1 hnonneg
  have hlt := n.toBitVec.isLt
  change n.toBitVec.toInt = n.toBitVec.toNat
  rw [BitVec.toInt_eq_toNat_cond] at hnonneg ⊢
  split_ifs at hnonneg ⊢ with hhalf
  · rfl
  · omega

namespace Column

def tooLarge : DatabaseError := .conversion "number too large to fit in target type"

theorem ofWord_of_not_fits {n : UInt64} (h : ¬ Word.Fits n) : ofWord n = .error tooLarge := by
  unfold ofWord
  cases hsigned : Word.signed? n.toNat with
  | some i => exact absurd (Word.fits_of_signed? hsigned) h
  | none => rfl

theorem bind_eq_ok {α β : Type} {c : Converted α} {f : α → Converted β} {b : β} :
    c >>= f = .ok b ↔ ∃ a, c = .ok a ∧ f a = .ok b := by
  cases c with
  | error e => exact ⟨nofun, fun ⟨_, h, _⟩ => nomatch h⟩
  | ok a => exact ⟨fun h => ⟨a, rfl, h⟩, fun ⟨_, h, hf⟩ => Except.ok.inj h ▸ hf⟩

theorem pure_eq_ok {α : Type} {a b : α} : (pure a : Converted α) = .ok b ↔ a = b :=
  ⟨Except.ok.inj, congrArg Except.ok⟩

/-! ## What is read is what was written -/

theorem toInt64_of_toWord {n : Int64} {w : UInt64} (h : toWord n = .ok w) :
    Word.Fits w ∧ w.toInt64 = n := by
  unfold toWord at h
  cases hunsigned : Word.unsigned? n with
  | none => rw [hunsigned] at h; cases h
  | some v =>
    rw [hunsigned] at h
    cases h
    have hsigned : ofWord w = .ok n := by
      rw [ofWord, Word.signed?_eq_some_iff.2 (Word.toInt_of_unsigned? hunsigned)]
    obtain ⟨hfits, hsame⟩ := ofWord_eq_ok hsigned
    exact ⟨hfits, hsame.symm⟩

theorem name_of_toChain {s : String} {c : Chain} (h : toChain s = .ok c) : c.name = s := by
  unfold toChain at h
  cases hparse : Chain.parse? s with
  | none => rw [hparse] at h; cases h
  | some d =>
    rw [hparse] at h
    cases h
    have hname := List.find?_some hparse
    exact beq_iff_eq.1 hname

theorem name_of_toTarget {s : String} {t : TargetId} (h : toTarget s = .ok t) : t.name = s := by
  unfold toTarget at h
  cases hparse : TargetId.parse? s with
  | none => rw [hparse] at h; cases h
  | some u =>
    rw [hparse] at h
    cases h
    have hname := List.find?_some hparse
    exact beq_iff_eq.1 hname

theorem code_of_toStatus {code : Int} {s : LedgerStatus} (h : toStatus code = .ok s) :
    (s.code : Int) = code := by
  unfold toStatus at h
  split_ifs at h with hnonneg
  · cases hparse : LedgerStatus.ofCode? code.toNat with
    | none => rw [hparse] at h; cases h
    | some t =>
      rw [hparse] at h
      cases h
      rw [LedgerStatus.code_of_ofCode? hparse, Int.toNat_of_nonneg hnonneg]

theorem toChecksum_of_toAddress {s : String} {a : Address} (h : toAddress s = .ok a)
    (hs : ∃ b : Address, s = b.toChecksum) : a.toChecksum = s := by
  obtain ⟨b, rfl⟩ := hs
  rw [toAddress_toChecksum] at h
  rw [Except.ok.inj h]

theorem value?_of_toAmount {n : Numeric} {a : Amount} (h : toAmount n = .ok a)
    (hn : n.IsInteger) : n.value? = (Numeric.ofAmount a).value? := by
  cases n with
  | special => cases h
  | decimal d =>
    have hnat : d.trunc = a.toNat := decimalAmount_eq_ok_iff.1 h
    rw [Numeric.value?_eq_trunc hn, Numeric.value?_ofAmount, hnat]

-- Seventy is read from a spelling that no written row has.
example : toAmount (.decimal ⟨7, -1⟩) = .ok (.ofUInt64 70) ∧
    Numeric.ofAmount (.ofUInt64 70) = .decimal ⟨70, 0⟩ := by decide

theorem value?_of_toSigned {n : Numeric} {a : SignedAmount} (h : toSigned n = .ok a)
    (hn : n.IsInteger) : n.value? = (Numeric.ofSigned a).value? := by
  cases n with
  | special => cases h
  | decimal d =>
    have hint : d.trunc = a.toInt := decimalSigned_eq_ok_iff.1 h
    rw [Numeric.value?_eq_trunc hn, Numeric.value?_ofSigned, hint]

end Column

open Column

/-- How records of a kind are converted to rows and back. What of them has a conversion of
its own are the words that are stored as signed words and the decimals; `rest` is what a
record decides of a row besides the decimals. -/
structure RowConversion (α ρ : Type) where
  toRow : α → Converted ρ
  ofRow : ρ → Converted α
  words : α → List UInt64
  addresses : ρ → List String
  numerics : ρ → List Numeric
  rest : ρ → ρ

namespace RowConversion

variable {α ρ : Type} (m : RowConversion α ρ)

/-- Whether a row is spelled as rows are that are written. -/
structure Canonical (r : ρ) : Prop where
  integers : ∀ n ∈ m.numerics r, n.IsInteger
  checksums : ∀ s ∈ m.addresses r, ∃ a : Address, s = a.toChecksum

/-- Whether rows are the same but for the spelling of equal decimals. -/
structure SameRow (r r' : ρ) : Prop where
  rest : m.rest r = m.rest r'
  values : (m.numerics r).map Numeric.value? = (m.numerics r').map Numeric.value?

/-- Whether no record and no row loses anything on its way to the other and back. -/
structure RoundTrips : Prop where
  fails_iff : ∀ a e, m.toRow a = .error e ↔ (∃ w ∈ m.words a, ¬ Word.Fits w) ∧ e = tooLarge
  reads_back : ∀ a r, m.toRow a = .ok r → m.ofRow r = .ok a ∧ m.Canonical r
  writes_back : ∀ r a, m.ofRow r = .ok a → m.Canonical r →
    ∃ r', m.toRow a = .ok r' ∧ m.SameRow r r'

variable {m}

/-- Rows are written as a function says, as long as the words are signed words. -/
theorem roundTrips_of_write (write : α → ρ)
    (htoRow : ∀ a, m.toRow a
      = if ∀ w ∈ m.words a, Word.Fits w then .ok (write a) else .error tooLarge)
    (hread : ∀ a, (∀ w ∈ m.words a, Word.Fits w) → m.ofRow (write a) = .ok a)
    (hcanonical : ∀ a, m.Canonical (write a))
    (hback : ∀ r a, m.ofRow r = .ok a → m.Canonical r →
      (∀ w ∈ m.words a, Word.Fits w) ∧ m.SameRow r (write a)) : m.RoundTrips where
  fails_iff a e := by
    rw [htoRow]
    split_ifs with hfits
    · constructor
      · exact nofun
      · rintro ⟨⟨w, hw, hnot⟩, -⟩
        exact absurd (hfits w hw) hnot
    · push Not at hfits
      constructor
      · rintro ⟨⟩
        exact ⟨hfits, rfl⟩
      · rintro ⟨-, rfl⟩
        rfl
  reads_back a r h := by
    rw [htoRow] at h
    split_ifs at h with hfits
    cases h
    exact ⟨hread a hfits, hcanonical a⟩
  writes_back r a h hr := by
    obtain ⟨hfits, hsame⟩ := hback r a h hr
    refine ⟨write a, ?_, hsame⟩
    rw [htoRow, if_pos hfits]

end RowConversion

namespace CursorRow

def conversion : RowConversion ScanCursor CursorRow where
  toRow := ofCursor
  ofRow := toCursor
  words c := [c.block]
  addresses _ := []
  numerics _ := []
  rest := id

theorem roundTrips : conversion.RoundTrips := by
  apply RowConversion.roundTrips_of_write write
  · intro c
    change ofCursor c = if ∀ w ∈ [c.block], Word.Fits w then _ else _
    simp only [List.mem_singleton, forall_eq]
    split_ifs with hfits
    · exact ofCursor_of_fits hfits
    · rw [ofCursor, ofWord_of_not_fits hfits]
      rfl
  · intro c hfits
    exact toCursor_write (hfits c.block (by simp [conversion]))
  · intro c
    exact ⟨by simp [conversion], by simp [conversion]⟩
  · intro r c hread _
    simp only [conversion, toCursor, bind_eq_ok, pure_eq_ok] at hread
    obtain ⟨chain, hchain, target, htarget, block, hblock, rfl⟩ := hread
    obtain ⟨hfits, hsame⟩ := toInt64_of_toWord hblock
    refine ⟨by simpa [conversion] using hfits, ?_, rfl⟩
    simp [conversion, write, name_of_toChain hchain, name_of_toTarget htarget, hsame]

end CursorRow

namespace LedgerRow

def conversion : RowConversion LedgerRecord LedgerRow where
  toRow r := .ok (ofRecord r)
  ofRow := toRecord
  words _ := []
  addresses r := [r.ledger]
  numerics := numerics
  rest r := { ledger := r.ledger, status := r.status }

theorem roundTrips : conversion.RoundTrips := by
  apply RowConversion.roundTrips_of_write ofRecord
  · intro r
    simp [conversion]
  · intro r _
    exact toRecord_ofRecord r
  · intro r
    exact ⟨by simp [conversion, numerics, ofRecord, Numeric.isInteger_ofAmount],
      by simp [conversion, ofRecord]⟩
  · rintro r record hread ⟨hintegers, hchecksums⟩
    simp only [conversion, numerics, List.forall_mem_cons] at hintegers hchecksums
    simp only [conversion, toRecord, bind_eq_ok, pure_eq_ok] at hread
    obtain ⟨ledger, hledger, active, hactive, cached, hcached, locked, hlocked, status, hstatus,
      total, htotal, downward, hdownward, upward, hupward, stake, hstake, borrow, hborrow, xctoken,
      hxctoken, rfl⟩ := hread
    obtain ⟨hiactive, hicached, hilocked, hitotal, hidownward, hiupward, histake, hiborrow,
      hixctoken, -⟩ := hintegers
    refine ⟨by simp [conversion], ?_, ?_⟩
    · simp [conversion, ofRecord, toChecksum_of_toAddress hledger hchecksums.1,
        code_of_toStatus hstatus]
    · simp [conversion, numerics, ofRecord, value?_of_toAmount hactive hiactive,
        value?_of_toAmount hcached hicached, value?_of_toAmount hlocked hilocked,
        value?_of_toAmount htotal hitotal, value?_of_toAmount hdownward hidownward,
        value?_of_toAmount hupward hiupward, value?_of_toAmount hstake histake,
        value?_of_toAmount hborrow hiborrow, value?_of_toAmount hxctoken hixctoken]

end LedgerRow

namespace RelayLedgerRow

def conversion : RowConversion RelayLedgerRecord RelayLedgerRow where
  toRow := ofRecord
  ofRow := toRecord
  words r := [r.validatorsCount, r.earliestEraForUnlocking]
  addresses r := [r.ledger]
  numerics := numerics
  rest r :=
    { ledger := r.ledger
      stash := r.stash
      stakeStatus := r.stakeStatus
      validatorsCount := r.validatorsCount
      earliestEraForUnlocking := r.earliestEraForUnlocking }

theorem roundTrips : conversion.RoundTrips := by
  apply RowConversion.roundTrips_of_write write
  · intro r
    change ofRecord r = if ∀ w ∈ [r.validatorsCount, r.earliestEraForUnlocking], Word.Fits w
      then _ else _
    simp only [List.forall_mem_cons, List.not_mem_nil, false_imp_iff, implies_true, and_true]
    split_ifs with hfits
    · exact ofRecord_of_fits hfits
    · unfold ofRecord
      by_cases hcount : Word.Fits r.validatorsCount
      · rw [ofWord_of_fits hcount, ofWord_of_not_fits (fun hera => hfits ⟨hcount, hera⟩)]
        rfl
      · rw [ofWord_of_not_fits hcount]
        rfl
  · intro r hfits
    simp only [conversion, List.forall_mem_cons] at hfits
    exact toRecord_write ⟨hfits.1, hfits.2.1⟩
  · intro r
    exact ⟨by simp [conversion, numerics, write, Numeric.isInteger_ofAmount],
      by simp [conversion, write]⟩
  · rintro r record hread ⟨hintegers, hchecksums⟩
    simp only [conversion, numerics, List.forall_mem_cons] at hintegers hchecksums
    simp only [conversion, toRecord, bind_eq_ok, pure_eq_ok] at hread
    obtain ⟨ledger, hledger, active, hactive, total, htotal, balance, hbalance, status, hstatus,
      count, hcount, unlocking, hunlocking, era, hera, rfl⟩ := hread
    obtain ⟨hiactive, hitotal, hibalance, hiunlocking, -⟩ := hintegers
    obtain ⟨hcfits, hcsame⟩ := toInt64_of_toWord hcount
    obtain ⟨hefits, hesame⟩ := toInt64_of_toWord hera
    refine ⟨by simp [conversion, hcfits, hefits], ?_, ?_⟩
    · simp [conversion, write, toChecksum_of_toAddress hledger hchecksums.1,
        code_of_toStatus hstatus, hcsame, hesame]
    · simp [conversion, numerics, write, value?_of_toAmount hactive hiactive,
        value?_of_toAmount htotal hitotal, value?_of_toAmount hbalance hibalance,
        value?_of_toAmount hunlocking hiunlocking]

end RelayLedgerRow

namespace ValidatorsRow

def conversion : RowConversion ValidatorsInfo ValidatorsRow where
  toRow v := .ok (ofInfo v)
  ofRow := toInfo
  words _ := []
  addresses r := [r.ledger]
  numerics r := [r.activeStake]
  rest r := { ledger := r.ledger, stash := r.stash, validators := r.validators }

theorem roundTrips : conversion.RoundTrips := by
  apply RowConversion.roundTrips_of_write ofInfo
  · intro v
    simp [conversion]
  · intro v _
    exact toInfo_ofInfo v
  · intro v
    exact ⟨by simp [conversion, ofInfo, Numeric.isInteger_ofAmount], by simp [conversion, ofInfo]⟩
  · rintro r v hread ⟨hintegers, hchecksums⟩
    simp only [conversion, List.forall_mem_cons] at hintegers hchecksums
    simp only [conversion, toInfo, bind_eq_ok, pure_eq_ok] at hread
    obtain ⟨ledger, hledger, stake, hstake, rfl⟩ := hread
    refine ⟨by simp [conversion], ?_, ?_⟩
    · simp [conversion, ofInfo, toChecksum_of_toAddress hledger hchecksums.1]
    · simp [conversion, ofInfo, value?_of_toAmount hstake hintegers.1]

end ValidatorsRow

namespace ReportRow

/-- The number of a report is given when it is stored, and is not read with the report. -/
def conversion : RowConversion RewardRow ReportRow where
  toRow := ofReward
  ofRow := toReward
  words r := [r.block]
  addresses r := [r.ledger]
  numerics r := [r.reward, r.balance]
  rest r := { ledger := r.ledger, reward := .zero, balance := .zero, block := r.block }

theorem roundTrips : conversion.RoundTrips := by
  apply RowConversion.roundTrips_of_write (write 0)
  · intro r
    change ofReward r = if ∀ w ∈ [r.block], Word.Fits w then _ else _
    simp only [List.mem_singleton, forall_eq]
    split_ifs with hfits
    · exact ofReward_of_fits hfits
    · rw [ofReward, ofWord_of_not_fits hfits]
      rfl
  · intro r hfits
    exact toReward_write (hfits r.block (by simp [conversion])) 0
  · intro r
    exact ⟨by simp [conversion, write, Numeric.isInteger_ofAmount, Numeric.isInteger_ofSigned],
      by simp [conversion, write]⟩
  · rintro r report hread ⟨hintegers, hchecksums⟩
    simp only [conversion, List.forall_mem_cons] at hintegers hchecksums
    simp only [conversion, toReward, bind_eq_ok, pure_eq_ok] at hread
    obtain ⟨ledger, hledger, reward, hreward, balance, hbalance, block, hblock, rfl⟩ := hread
    obtain ⟨hfits, hsame⟩ := toInt64_of_toWord hblock
    refine ⟨by simpa [conversion] using hfits, ?_, ?_⟩
    · simp [conversion, write, toChecksum_of_toAddress hledger hchecksums.1, hsame]
    · simp [conversion, write, value?_of_toSigned hreward hintegers.1,
        value?_of_toAmount hbalance hintegers.2.1]

end ReportRow

/-- Cursors, both kinds of ledgers, validators and reports keep everything on the way to their rows
and back, and so do their rows on the way to the records. -/
theorem rows_roundTrip : CursorRow.conversion.RoundTrips ∧ LedgerRow.conversion.RoundTrips ∧
    RelayLedgerRow.conversion.RoundTrips ∧ ValidatorsRow.conversion.RoundTrips ∧
    ReportRow.conversion.RoundTrips :=
  ⟨CursorRow.roundTrips, LedgerRow.roundTrips, RelayLedgerRow.roundTrips,
    ValidatorsRow.roundTrips, ReportRow.roundTrips⟩

end StakingIndexer
