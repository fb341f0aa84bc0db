import Mathlib
import StakingIndexer.Proofs.Reader.Answers
import StakingIndexer.Relay.EraStart

/-!
# The search for the start of an era

A search asks for the era in the middle of a range of blocks and goes on in one half of it, until
nothing of the range is left or an answer fails. Behind each answer at most half of the range is
left, and the ends of what is left have been told to lie before and not before the start.
-/

namespace StakingIndexer
namespace Relay

variable {σ ε : Type}

/-- A block whose era was asked for, and what came back. -/
structure Probe (ε : Type) where
  block : UInt64
  answer : Except ε UInt32

def error? {α : Type} : Except ε α → Option ε
  | .ok _ => none
  | .error e => some e

/-- A reading of eras that writes down what it is asked and what it answers. -/
def probing (eraAt : UInt64 → Action σ ε UInt32) (block : UInt64) :
    Action (σ × List (Probe ε)) ε UInt32 :=
  (eraAt block).recording fun answer => ⟨block, answer⟩

def middle (low high : UInt64) : UInt64 := low + (high - low) / 2

section Range

variable {low high : UInt64} (h : low < high)
include h

theorem toNat_middle : (middle low high).toNat = low.toNat + (high.toNat - low.toNat) / 2 :=
  toNat_midpoint h

theorem toNat_middle_succ :
    (middle low high + 1).toNat = low.toNat + (high.toNat - low.toNat) / 2 + 1 :=
  toNat_midpoint_succ h

theorem le_middle : low ≤ middle low high := by
  rw [UInt64.le_iff_toNat_le, toNat_middle h]
  exact Nat.le_add_right _ _

theorem middle_lt : middle low high < high := by
  have hlt := UInt64.lt_iff_toNat_lt.1 h
  rw [UInt64.lt_iff_toNat_lt, toNat_middle h]
  omega

theorem middle_succ_le : middle low high + 1 ≤ high := by
  have hlt := UInt64.lt_iff_toNat_lt.1 h
  rw [UInt64.le_iff_toNat_le, toNat_middle_succ h]
  omega

theorem le_middle_succ : low ≤ middle low high + 1 := by
  rw [UInt64.le_iff_toNat_le, toNat_middle_succ h]
  omega

theorem middle_succ_sub_one : middle low high + 1 - 1 = middle low high := by
  apply UInt64.toNat.inj
  rw [UInt64.toNat_sub_of_le, toNat_middle_succ h, toNat_middle h, UInt64.toNat_one]
  · omega
  · rw [UInt64.le_iff_toNat_le, toNat_middle_succ h, UInt64.toNat_one]
    omega

end Range

theorem le_sub_one {block start : UInt64} (h : block < start) : block ≤ start - 1 := by
  rw [UInt64.lt_iff_toNat_lt] at h
  rw [UInt64.le_iff_toNat_le, UInt64.toNat_sub_of_le, UInt64.toNat_one]
  · omega
  · rw [UInt64.le_iff_toNat_le, UInt64.toNat_one]
    omega

def NeverFalls (eras : UInt64 → UInt32) (low high : UInt64) : Prop :=
  ∀ block later, low ≤ block → block ≤ later → later < high → eras block ≤ eras later

theorem ite_lt_le_ite_lt {change block later : UInt64} {era next : UInt32} (hnext : era ≤ next)
    (hle : block ≤ later) :
    (if block < change then era else next) ≤ if later < change then era else next := by
  split_ifs with hblock hlater hlater
  · exact UInt32.le_rfl
  · exact hnext
  · exact absurd (UInt64.lt_of_le_of_lt hle hlater) hblock
  · exact UInt32.le_rfl

theorem size_lt_size_of_halved {width rest : Nat} (hwidth : 0 < width) (hrest : rest ≤ width / 2) :
    rest.size < width.size := by
  rw [Nat.lt_size]
  obtain rfl | hpos := Nat.eq_zero_or_pos rest
  · exact hwidth
  · have hsize := Nat.size_pos.2 hpos
    have hpow : 2 ^ (rest.size - 1) ≤ rest := Nat.lt_size.1 (Nat.sub_lt hsize Nat.one_pos)
    calc 2 ^ rest.size = 2 ^ (rest.size - 1) * 2 := by
          rw [← Nat.pow_succ, Nat.succ_eq_add_one, Nat.sub_add_cancel hsize]
      _ ≤ rest * 2 := Nat.mul_le_mul_right 2 hpow
      _ ≤ width := by omega

/-- A search within a range, from one state to another, with its calls and its result. -/
inductive Search (eraAt : UInt64 → Action σ ε UInt32) (era : UInt32) :
    UInt64 → UInt64 → σ → List (Probe ε) → Except ε UInt64 → σ → Prop
  | closed {low high : UInt64} {s : σ} (hclosed : ¬ low < high) :
    Search eraAt era low high s [] (.ok low) s
  | failed {low high : UInt64} {s t : σ} {e : ε} (hopen : low < high)
      (hasked : eraAt (middle low high) s = (.error e, t)) :
    Search eraAt era low high s [⟨middle low high, .error e⟩] (.error e) t
  | before {low high : UInt64} {s t u : σ} {answer : UInt32} {calls : List (Probe ε)}
      {result : Except ε UInt64} (hopen : low < high)
      (hasked : eraAt (middle low high) s = (.ok answer, t)) (hreached : era ≤ answer)
      (hrest : Search eraAt era low (middle low high) t calls result u) :
    Search eraAt era low high s (⟨middle low high, .ok answer⟩ :: calls) result u
  | behind {low high : UInt64} {s t u : σ} {answer : UInt32} {calls : List (Probe ε)}
      {result : Except ε UInt64} (hopen : low < high)
      (hasked : eraAt (middle low high) s = (.ok answer, t)) (hearlier : answer < era)
      (hrest : Search eraAt era (middle low high + 1) high t calls result u) :
    Search eraAt era low high s (⟨middle low high, .ok answer⟩ :: calls) result u

variable {eraAt : UInt64 → Action σ ε UInt32} {era : UInt32} {low high : UInt64}

theorem findEraStart_closed (h : ¬ low < high) (s : σ) :
    findEraStart eraAt era low high s = (.ok low, s) := by
  rw [findEraStart, dif_neg h]
  rfl

theorem findEraStart_open (h : low < high) (s : σ) :
    findEraStart eraAt era low high s =
      match eraAt (middle low high) s with
      | (.ok answer, t) =>
        if era ≤ answer then findEraStart eraAt era low (middle low high) t
        else findEraStart eraAt era (middle low high + 1) high t
      | (.error e, t) => (.error e, t) := by
  rw [findEraStart, dif_pos h, Action.bind_eq, ← middle]
  rcases eraAt (middle low high) s with ⟨e | answer, t⟩
  · rfl
  · dsimp only
    split_ifs <;> rfl

/-- What is computed is a search. -/
theorem search_findEraStart (eraAt : UInt64 → Action σ ε UInt32) (era : UInt32)
    (low high : UInt64) (s : σ) :
    ∃ calls, Search eraAt era low high s calls (findEraStart eraAt era low high s).1
      (findEraStart eraAt era low high s).2 := by
  induction hwidth : high.toNat - low.toNat using Nat.strong_induction_on
    generalizing low high s with
  | h width ih =>
    by_cases hopen : low < high
    · have hlt := UInt64.lt_iff_toNat_lt.1 hopen
      rw [findEraStart_open hopen]
      generalize hasked : eraAt (middle low high) s = r
      obtain ⟨e | answer, t⟩ := r
      · exact ⟨_, .failed hopen hasked⟩
      · dsimp only
        split_ifs with hreached
        · have hmiddle := toNat_middle hopen
          obtain ⟨calls, hrest⟩ := ih _ (by omega) low (middle low high) t rfl
          exact ⟨_, .before hopen hasked hreached hrest⟩
        · have hmiddle := toNat_middle_succ hopen
          obtain ⟨calls, hrest⟩ := ih _ (by omega) (middle low high + 1) high t rfl
          exact ⟨_, .behind hopen hasked (UInt32.not_le.1 hreached) hrest⟩
    · rw [findEraStart_closed hopen]
      exact ⟨_, .closed hopen⟩

namespace Search

variable {s t : σ} {calls : List (Probe ε)} {result : Except ε UInt64} {start : UInt64}

theorem recorded (h : Search eraAt era low high s calls result t) (journal : List (Probe ε)) :
    findEraStart (probing eraAt) era low high (s, journal) = (result, t, journal ++ calls) := by
  induction h generalizing journal with
  | closed hclosed => rw [findEraStart_closed hclosed, List.append_nil]
  | failed hopen hasked =>
    rw [findEraStart_open hopen, probing, Action.recording, hasked]
  | before hopen hasked hreached _ ih =>
    rw [findEraStart_open hopen, probing, Action.recording, hasked]
    dsimp only
    rw [if_pos hreached, ih, List.append_assoc, List.singleton_append]
  | behind hopen hasked hearlier _ ih =>
    rw [findEraStart_open hopen, probing, Action.recording, hasked]
    dsimp only
    rw [if_neg (UInt32.not_le.2 hearlier), ih, List.append_assoc, List.singleton_append]

/-- Each call halves what is left of the range. -/
theorem length_le_size (h : Search eraAt era low high s calls result t) :
    calls.length ≤ (high.toNat - low.toNat).size := by
  induction h with
  | closed => exact Nat.zero_le _
  | failed hopen =>
    have hlt := UInt64.lt_iff_toNat_lt.1 hopen
    exact Nat.size_pos.2 (by omega)
  | before hopen _ _ _ ih =>
    have hlt := UInt64.lt_iff_toNat_lt.1 hopen
    rw [toNat_middle hopen] at ih
    exact (Nat.succ_le_succ ih).trans (size_lt_size_of_halved (by omega) (by omega))
  | behind hopen _ _ _ ih =>
    have hlt := UInt64.lt_iff_toNat_lt.1 hopen
    rw [toNat_middle_succ hopen] at ih
    exact (Nat.succ_le_succ ih).trans (size_lt_size_of_halved (by omega) (by omega))

theorem within (h : Search eraAt era low high s calls result t) :
    ∀ call ∈ calls, low ≤ call.block ∧ call.block < high := by
  induction h with
  | closed => exact fun call hcall => absurd hcall List.not_mem_nil
  | failed hopen =>
    rw [List.forall_mem_singleton]
    exact ⟨le_middle hopen, middle_lt hopen⟩
  | before hopen _ _ _ ih =>
    rw [List.forall_mem_cons]
    refine ⟨⟨le_middle hopen, middle_lt hopen⟩, fun call hcall => ?_⟩
    obtain ⟨hlow, hhigh⟩ := ih call hcall
    exact ⟨hlow, UInt64.lt_trans hhigh (middle_lt hopen)⟩
  | behind hopen _ _ _ ih =>
    rw [List.forall_mem_cons]
    refine ⟨⟨le_middle hopen, middle_lt hopen⟩, fun call hcall => ?_⟩
    obtain ⟨hlow, hhigh⟩ := ih call hcall
    exact ⟨UInt64.le_trans (le_middle_succ hopen) hlow, hhigh⟩

theorem failure_eq (h : Search eraAt era low high s calls result t) :
    calls.findSome? (error? ·.answer) = error? result := by
  induction h with
  | closed => rfl
  | failed => rfl
  | before _ _ _ _ ih => exact ih
  | behind _ _ _ _ ih => exact ih

theorem told_cons {block : UInt64} {p : UInt32 → Prop} (call : Probe ε)
    (h : ∃ told, ⟨block, .ok told⟩ ∈ calls ∧ p told) :
    ∃ told, ⟨block, .ok told⟩ ∈ call :: calls ∧ p told := by
  obtain ⟨told, hcall, htold⟩ := h
  exact ⟨told, List.mem_cons_of_mem _ hcall, htold⟩

/-- The block before the result was told to lie before the era, and the result to lie not before
it, as far as they belong to the range. -/
theorem bracket (h : Search eraAt era low high s calls result t)
    (hresult : result = .ok start) (hle : low ≤ high) :
    low ≤ start ∧ start ≤ high ∧
      (low < start → ∃ told, ⟨start - 1, .ok told⟩ ∈ calls ∧ told < era) ∧
      (start < high → ∃ told, ⟨start, .ok told⟩ ∈ calls ∧ era ≤ told) := by
  induction h with
  | closed hclosed =>
    cases hresult
    refine ⟨UInt64.le_rfl, hle, fun hlt => absurd hlt (UInt64.lt_irrefl _), fun hlt => ?_⟩
    exact absurd hlt hclosed
  | failed => cases hresult
  | @before low high _ _ _ answer _ _ hopen _ hreached _ ih =>
    obtain ⟨hlow, hmiddle, hearlier, hlater⟩ := ih hresult (le_middle hopen)
    refine ⟨hlow, UInt64.le_trans hmiddle (UInt64.le_of_lt (middle_lt hopen)),
      fun hlt => told_cons _ (hearlier hlt), fun _ => ?_⟩
    -- the middle itself was asked just now
    obtain hlt | rfl := UInt64.lt_or_eq_of_le hmiddle
    · exact told_cons _ (hlater hlt)
    · exact ⟨answer, List.mem_cons_self, hreached⟩
  | @behind low high _ _ _ answer _ _ hopen _ hbehind _ ih =>
    obtain ⟨hmiddle, hhigh, hearlier, hlater⟩ := ih hresult (middle_succ_le hopen)
    refine ⟨UInt64.le_trans (le_middle_succ hopen) hmiddle, hhigh, fun _ => ?_,
      fun hlt => told_cons _ (hlater hlt)⟩
    obtain hlt | rfl := UInt64.lt_or_eq_of_le hmiddle
    · exact told_cons _ (hearlier hlt)
    · rw [middle_succ_sub_one hopen]
      exact ⟨answer, List.mem_cons_self, hbehind⟩

theorem answers (h : Search eraAt era low high s calls result t) {I : σ → Prop}
    {told : UInt64 → UInt32 → Prop} (hreads : ∀ block, (eraAt block).Meets I (told block))
    (hs : I s) :
    I t ∧ ∀ call ∈ calls, ∀ answer, call.answer = .ok answer → told call.block answer := by
  induction h with
  | closed => exact ⟨hs, fun call hcall => absurd hcall List.not_mem_nil⟩
  | @failed low high s _ _ _ hasked =>
    obtain ⟨hkept, -⟩ := hreads (middle low high) s hs
    rw [hasked] at hkept
    refine ⟨hkept, ?_⟩
    rw [List.forall_mem_singleton]
    exact fun answer hanswer => by cases hanswer
  | @before low high s _ _ _ _ _ _ hasked _ _ ih | @behind low high s _ _ _ _ _ _ hasked _ _ ih =>
    obtain ⟨hkept, htold⟩ := hreads (middle low high) s hs
    rw [hasked] at hkept htold
    obtain ⟨hend, hrest⟩ := ih hkept
    refine ⟨hend, ?_⟩
    rw [List.forall_mem_cons]
    refine ⟨fun answer hanswer => ?_, hrest⟩
    cases hanswer
    exact htold _ rfl

/-- Where eras do not fall, the result is the first block of the range that has reached the era, or
the end of the range. -/
theorem isLeast (h : Search eraAt era low high s calls (.ok start) t) (hle : low ≤ high)
    {eras : UInt64 → UInt32}
    (htold : ∀ call ∈ calls, ∀ answer, call.answer = .ok answer → answer = eras call.block)
    (hgrow : NeverFalls eras low high) :
    IsLeast {block | low ≤ block ∧ block < high ∧ era ≤ eras block} start ∨
      start = high ∧ ∀ block, low ≤ block → block < high → eras block < era := by
  obtain ⟨hlow, hhigh, hearlier, hlater⟩ := h.bracket rfl hle
  -- no block before the result has reached the era
  have hbefore : ∀ block, low ≤ block → block < start → eras block < era := by
    intro block hblock hlt
    obtain ⟨answer, hcall, hanswer⟩ := hearlier (UInt64.lt_of_le_of_lt hblock hlt)
    have htold : answer = eras (start - 1) := htold _ hcall answer rfl
    have hprior := hgrow block (start - 1) hblock (le_sub_one hlt) (h.within _ hcall).2
    exact UInt32.lt_of_le_of_lt hprior (htold ▸ hanswer)
  obtain hlt | rfl := UInt64.lt_or_eq_of_le hhigh
  · obtain ⟨answer, hcall, hanswer⟩ := hlater hlt
    have htold : answer = eras start := htold _ hcall answer rfl
    subst htold
    refine .inl ⟨⟨hlow, hlt, hanswer⟩, fun block hblock => ?_⟩
    by_contra hcontra
    exact absurd hblock.2.2 (UInt32.not_le.2 (hbefore block hblock.1 (UInt64.not_le.1 hcontra)))
  · exact .inr ⟨rfl, hbefore⟩

end Search

/-- The search over numbers that have no greatest one. -/
def searchUnbounded (eraAt : UInt64 → Action σ ε UInt32) (era : UInt32) (low high : Nat) :
    Action σ ε Nat :=
  if low < high then do
    let middle := low + (high - low) / 2
    if era ≤ (← eraAt (UInt64.ofNat middle)) then searchUnbounded eraAt era low middle
    else searchUnbounded eraAt era (middle + 1) high
  else pure low
termination_by high - low

theorem searchUnbounded_closed {low high : Nat} (h : ¬ low < high) (s : σ) :
    searchUnbounded eraAt era low high s = (.ok low, s) := by
  rw [searchUnbounded, if_neg h]
  rfl

theorem searchUnbounded_open (h : low < high) (s : σ) :
    searchUnbounded eraAt era low.toNat high.toNat s =
      match eraAt (middle low high) s with
      | (.ok answer, t) =>
        if era ≤ answer then searchUnbounded eraAt era low.toNat (middle low high).toNat t
        else searchUnbounded eraAt era (middle low high + 1).toNat high.toNat t
      | (.error e, t) => (.error e, t) := by
  rw [searchUnbounded, if_pos (UInt64.lt_iff_toNat_lt.1 h), Action.bind_eq, ← toNat_middle h,
    UInt64.ofNat_toNat, toNat_middle_succ h, ← toNat_middle h]
  rcases eraAt (middle low high) s with ⟨e | answer, t⟩
  · rfl
  · dsimp only
    split_ifs <;> rfl

theorem Search.unbounded {s t : σ} {calls : List (Probe ε)} {result : Except ε UInt64}
    (h : Search eraAt era low high s calls result t) :
    searchUnbounded eraAt era low.toNat high.toNat s = (result.map UInt64.toNat, t) := by
  induction h with
  | closed hclosed =>
    rw [searchUnbounded_closed (mt UInt64.lt_iff_toNat_lt.2 hclosed)]
    rfl
  | failed hopen hasked =>
    rw [searchUnbounded_open hopen, hasked]
    rfl
  | before hopen hasked hreached _ ih =>
    rw [searchUnbounded_open hopen, hasked]
    dsimp only
    rw [if_pos hreached, ih]
  | behind hopen hasked hearlier _ ih =>
    rw [searchUnbounded_open hopen, hasked]
    dsimp only
    rw [if_neg (UInt32.not_le.2 hearlier), ih]

/-- Whatever the eras are read from, a search does as it would with numbers that have no greatest
one. It makes no more calls than the size of the range has bits, all within the range, and ends
with the error of the first one that fails. Otherwise it ends where the block before was told to
lie before the era and the block itself not, and with the first such block if eras do not fall. -/
theorem findEraStart_correct (eraAt : UInt64 → Action σ ε UInt32) (era : UInt32)
    (hle : low ≤ high) (s : σ) :
    UInt64.toNat <$> findEraStart eraAt era low high
        = searchUnbounded eraAt era low.toNat high.toNat ∧
      ∃ calls, findEraStart (probing eraAt) era low high (s, [])
          = ((findEraStart eraAt era low high s).1, (findEraStart eraAt era low high s).2, calls) ∧
        calls.length ≤ (high.toNat - low.toNat + 1).size ∧
        (∀ call ∈ calls, low ≤ call.block ∧ call.block < high) ∧
        (∀ e, calls.findSome? (error? ·.answer) = some e →
          (findEraStart eraAt era low high s).1 = .error e) ∧
        (calls.findSome? (error? ·.answer) = none →
          ∃ start, (findEraStart eraAt era low high s).1 = .ok start ∧
            low ≤ start ∧ start ≤ high ∧
            (low < start → ∃ told, ⟨start - 1, .ok told⟩ ∈ calls ∧ told < era) ∧
            (start < high → ∃ told, ⟨start, .ok told⟩ ∈ calls ∧ era ≤ told) ∧
            ∀ eras : UInt64 → UInt32, (∀ call ∈ calls, call.answer = .ok (eras call.block)) →
              NeverFalls eras low high →
                IsLeast {block | low ≤ block ∧ block < high ∧ era ≤ eras block} start ∨
                  start = high ∧ ∀ block, low ≤ block → block < high → eras block < era) := by
  constructor
  · funext s
    obtain ⟨calls, hsearch⟩ := search_findEraStart eraAt era low high s
    rw [hsearch.unbounded, Action.map_eq]
    rcases findEraStart eraAt era low high s with ⟨e | start, t⟩ <;> rfl
  · obtain ⟨calls, hsearch⟩ := search_findEraStart eraAt era low high s
    refine ⟨calls, hsearch.recorded [], ?_, hsearch.within, fun e he => ?_, fun hnone => ?_⟩
    · exact hsearch.length_le_size.trans (Nat.size_le_size (Nat.le_succ _))
    · have hresult := hsearch.failure_eq.symm.trans he
      generalize (findEraStart eraAt era low high s).1 = result at hresult
      cases result with
      | ok start => cases hresult
      | error e' => exact congrArg Except.error (Option.some.inj hresult)
    · have hresult := hsearch.failure_eq.symm.trans hnone
      generalize (findEraStart eraAt era low high s).1 = result at hsearch hresult
      cases result with
      | error e => cases hresult
      | ok start =>
        obtain ⟨hlow, hhigh, hearlier, hlater⟩ := hsearch.bracket rfl hle
        refine ⟨start, rfl, hlow, hhigh, hearlier, hlater, fun eras htold hgrow => ?_⟩
        refine hsearch.isLeast hle (fun call hcall answer hanswer => ?_) hgrow
        exact Except.ok.inj (hanswer.symm.trans (htold call hcall))

/-- An era that began at the third block from the last one that there can be. -/
def lastEras (block : UInt64) : UInt32 := if block < 0xfffffffffffffffd then 7 else 8

theorem neverFalls_lastEras (low high : UInt64) : NeverFalls lastEras low high :=
  fun _ _ _ hle _ => ite_lt_le_ite_lt (by decide) hle

/-- Among the last eight blocks it is found with three calls. -/
theorem findEraStart_correct_lastBlocks :
    (0xfffffffffffffff8 : UInt64) ≤ 0xffffffffffffffff ∧
    ∃ calls : List (Probe ReadError),
      findEraStart (probing fun block => pure (lastEras block)) 8 0xfffffffffffffff8
          0xffffffffffffffff ((), [])
        = (.ok 0xfffffffffffffffd, (), calls) ∧
      calls.map (·.block) = [0xfffffffffffffffb, 0xfffffffffffffffd, 0xfffffffffffffffc] ∧
      IsLeast {block | 0xfffffffffffffff8 ≤ block ∧ block < 0xffffffffffffffff ∧
        8 ≤ lastEras block} 0xfffffffffffffffd := by
  have hle : (0xfffffffffffffff8 : UInt64) ≤ 0xffffffffffffffff := by decide
  obtain ⟨-, calls, hrun, -, -, -, hfound⟩ :=
    findEraStart_correct (ε := ReadError) (fun block => pure (lastEras block)) 8 hle ()
  have hcalls : findEraStart (probing (ε := ReadError) fun block => pure (lastEras block)) 8
      0xfffffffffffffff8 0xffffffffffffffff ((), [])
      = (.ok 0xfffffffffffffffd, (), [⟨0xfffffffffffffffb, .ok 7⟩, ⟨0xfffffffffffffffd, .ok 8⟩,
        ⟨0xfffffffffffffffc, .ok 7⟩]) := by cbv
  obtain ⟨hresult, hrest⟩ := Prod.mk.inj (hrun.symm.trans hcalls)
  obtain ⟨-, rfl⟩ := Prod.mk.inj hrest
  obtain ⟨start, hstart, -, -, -, -, hleast⟩ := hfound rfl
  obtain rfl : start = 0xfffffffffffffffd := Except.ok.inj (hstart.symm.trans hresult)
  refine ⟨hle, _, hcalls, rfl, ?_⟩
  refine (hleast lastEras (by decide) (neverFalls_lastEras _ _)).resolve_right fun hend => ?_
  exact absurd hend.1 (by decide)

end Relay
end StakingIndexer
