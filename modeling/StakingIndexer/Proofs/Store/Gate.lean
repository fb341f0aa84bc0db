import Mathlib
import StakingIndexer.Store.Basic

/-!
# Gates

A commit passes if it moves its cursor forward, and otherwise changes nothing. What follows from
this one rule holds of every store that keeps it, in every sequence of commits and faults: each
cursor moves forward only, and what has been committed once can be sent again without effect.
-/

namespace StakingIndexer

/-- A store, everything that it holds, and the faults that it meets. -/
structure FaultyStore (σ φ κ : Type) where
  commit : ScanCursor → AggregateDelta → Action σ StoreError CommitOutcome
  fault : φ → σ → σ
  contents : σ → κ
  cursor : κ → Chain → TargetId → Option ScanCursor

/-- What happens to a store. -/
inductive StoreMove (φ : Type) where
  | commit (cursor : ScanCursor) (delta : AggregateDelta)
  | fault (f : φ)

/-- A commit and what came of it. -/
structure Submission where
  cursor : ScanCursor
  delta : AggregateDelta
  outcome : Except StoreError CommitOutcome

namespace FaultyStore

variable {σ φ κ : Type} (g : FaultyStore σ φ κ)

def move (s : σ) : StoreMove φ → σ
  | .commit c d => (g.commit c d s).2
  | .fault f => g.fault f s

def run (s : σ) (moves : List (StoreMove φ)) : σ := moves.foldl g.move s

/-- The commits among moves and what comes of them. -/
def submissions : σ → List (StoreMove φ) → List Submission
  | _, [] => []
  | s, .commit c d :: rest => ⟨c, d, (g.commit c d s).1⟩ :: submissions (g.commit c d s).2 rest
  | s, .fault f :: rest => submissions (g.fault f s) rest

def applied (s : σ) (moves : List (StoreMove φ)) : List Submission :=
  (g.submissions s moves).filter fun x =>
    match x.outcome with
    | .ok .applied => true
    | _ => false

def appliedTo (chain : Chain) (target : TargetId) (s : σ) (moves : List (StoreMove φ)) :
    List Submission :=
  (g.applied s moves).filter fun x => x.cursor.chain = chain ∧ x.cursor.target = target

/-- Whether a cursor is absent or behind. -/
def Admits (k : κ) (c : ScanCursor) : Prop :=
  ∀ stored, g.cursor k c.chain c.target = some stored → stored.block < c.block

def Moved (k : κ) (c : ScanCursor) (k' : κ) : Prop :=
  ∀ chain target, g.cursor k' chain target
    = if chain = c.chain ∧ target = c.target then some c else g.cursor k chain target

/-- What a commit does to what is stored. -/
inductive CommitEffect (k : κ) (c : ScanCursor) :
    Except StoreError CommitOutcome → κ → Prop
  | applied {k' : κ} (hadmits : g.Admits k c) (hmoved : g.Moved k c k') :
      CommitEffect k c (.ok .applied) k'
  | refused (hadmits : ¬ g.Admits k c) : CommitEffect k c (.ok .alreadyApplied) k
  | failed (e : StoreError) : CommitEffect k c (.error e) k

/-- A store whose commits pass a gate as long as an invariant holds of what is stored. -/
structure Gated (I : κ → Prop) : Prop where
  fault : ∀ f s, g.contents (g.fault f s) = g.contents s
  keeps : ∀ c d s, I (g.contents s) → I (g.contents (g.commit c d s).2)
  commit : ∀ c d s, I (g.contents s) →
    g.CommitEffect (g.contents s) c (g.commit c d s).1 (g.contents (g.commit c d s).2)

/-- A move that sends a commit again which once did not fail, or a fault. -/
def Repeats (s : σ) (moves : List (StoreMove φ)) : StoreMove φ → Prop
  | .commit c d => ∃ outcome, ⟨c, d, .ok outcome⟩ ∈ g.submissions s moves
  | .fault _ => True

/-- What a gate makes of every sequence of commits and faults. A commit that does not fail
is applied if its cursor is absent or behind, and moves this cursor to its block; one that
is not applied changes nothing. Each cursor moves forward and stands where the last of its
commits moved it, and commits that once did not fail change nothing when they are sent
again. -/
structure CommitsOnce (start : σ) : Prop where
  outcome : ∀ moves c d outcome, (g.commit c d (g.run start moves)).1 = .ok outcome →
    (outcome = .applied ↔ g.Admits (g.contents (g.run start moves)) c)
  unchanged : ∀ moves c d, (g.commit c d (g.run start moves)).1 ≠ .ok .applied →
    g.contents (g.commit c d (g.run start moves)).2 = g.contents (g.run start moves)
  moved : ∀ moves c d, (g.commit c d (g.run start moves)).1 = .ok .applied →
    g.Moved (g.contents (g.run start moves)) c (g.contents (g.commit c d (g.run start moves)).2)
  ascending : ∀ moves chain target,
    (g.appliedTo chain target start moves).Pairwise
        (fun x y => x.cursor.block < y.cursor.block) ∧
      g.cursor (g.contents (g.run start moves)) chain target
        = (g.appliedTo chain target start moves).getLast?.map (·.cursor)
  resubmitted : ∀ moves again, (∀ m ∈ again, g.Repeats start moves m) →
    g.contents (g.run (g.run start moves) again) = g.contents (g.run start moves)

variable {g}

theorem run_append (s : σ) (moves more : List (StoreMove φ)) :
    g.run s (moves ++ more) = g.run (g.run s moves) more := List.foldl_append

theorem submissions_append (s : σ) (moves more : List (StoreMove φ)) :
    g.submissions s (moves ++ more)
      = g.submissions s moves ++ g.submissions (g.run s moves) more := by
  induction moves generalizing s with
  | nil => rfl
  | cons m moves ih =>
    cases m with
    | commit c d => exact congrArg (_ :: ·) (ih _)
    | fault f => exact ih _

theorem applied_append (s : σ) (moves more : List (StoreMove φ)) :
    g.applied s (moves ++ more) = g.applied s moves ++ g.applied (g.run s moves) more := by
  rw [applied, submissions_append, List.filter_append]
  rfl

theorem applied_commit (s : σ) (c : ScanCursor) (d : AggregateDelta) :
    g.applied s [.commit c d]
      = if (g.commit c d s).1 = .ok .applied then [⟨c, d, .ok .applied⟩] else [] := by
  simp only [applied, submissions, List.filter_cons, List.filter_nil]
  rcases (g.commit c d s).1 with e | (_ | _) <;> simp

theorem appliedTo_commit (chain : Chain) (target : TargetId) (s : σ) (c : ScanCursor)
    (d : AggregateDelta) (moves : List (StoreMove φ)) :
    g.appliedTo chain target s (.commit c d :: moves)
      = if (g.commit c d s).1 = .ok .applied ∧ c.chain = chain ∧ c.target = target
        then ⟨c, d, .ok .applied⟩ :: g.appliedTo chain target (g.commit c d s).2 moves
        else g.appliedTo chain target (g.commit c d s).2 moves := by
  simp only [appliedTo, applied, submissions, List.filter_cons]
  rcases houtcome : (g.commit c d s).1 with e | (_ | _) <;>
    by_cases hkey : c.chain = chain ∧ c.target = target <;> simp [hkey]

namespace CommitEffect

variable {k k' : κ} {c : ScanCursor} {outcome : Except StoreError CommitOutcome}

theorem eq_of_ne_applied (h : g.CommitEffect k c outcome k') (hne : outcome ≠ .ok .applied) :
    k' = k := by
  cases h with
  | applied => exact absurd rfl hne
  | refused => rfl
  | failed => rfl

theorem eq_of_not_admits (h : g.CommitEffect k c outcome k') (hclosed : ¬ g.Admits k c) :
    k' = k := by
  cases h with
  | applied hopen => exact absurd hopen hclosed
  | refused => rfl
  | failed => rfl

theorem of_applied (h : g.CommitEffect k c outcome k') (happlied : outcome = .ok .applied) :
    g.Admits k c ∧ g.Moved k c k' := by
  cases h with
  | applied hopen hmoved => exact ⟨hopen, hmoved⟩
  | refused => cases happlied
  | failed => cases happlied

theorem cursor_eq (h : g.CommitEffect k c outcome k') {chain : Chain} {target : TargetId}
    (hother : ¬ (outcome = .ok .applied ∧ c.chain = chain ∧ c.target = target)) :
    g.cursor k' chain target = g.cursor k chain target := by
  by_cases happlied : outcome = .ok .applied
  · rw [(h.of_applied happlied).2, if_neg]
    rintro ⟨rfl, rfl⟩
    exact hother ⟨happlied, rfl, rfl⟩
  · rw [h.eq_of_ne_applied happlied]

theorem admits_before (h : g.CommitEffect k c outcome k') {other : ScanCursor}
    (hother : g.Admits k' other) : g.Admits k other := by
  cases h with
  | refused => exact hother
  | failed => exact hother
  | applied hopen hmoved =>
    intro stored hstored
    by_cases hkey : other.chain = c.chain ∧ other.target = c.target
    · have hlt := hother c (by rw [hmoved, if_pos hkey])
      rw [hkey.1, hkey.2] at hstored
      exact UInt64.lt_trans (hopen stored hstored) hlt
    · exact hother stored (by rw [hmoved, if_neg hkey, hstored])

theorem closed_of_ok {done : CommitOutcome} (h : g.CommitEffect k c (.ok done) k') :
    ¬ g.Admits k' c := by
  cases h with
  | refused hclosed => exact hclosed
  | applied hopen hmoved =>
    intro hadmits
    exact UInt64.lt_irrefl _ (hadmits c (by rw [hmoved, if_pos ⟨rfl, rfl⟩]))

end CommitEffect

namespace Gated

variable {I : κ → Prop} (h : g.Gated I)
include h

theorem fault_keeps {s : σ} (hs : I (g.contents s)) (f : φ) : I (g.contents (g.fault f s)) := by
  rw [h.fault]
  exact hs

theorem run_keeps {s : σ} (hs : I (g.contents s)) (moves : List (StoreMove φ)) :
    I (g.contents (g.run s moves)) := by
  induction moves generalizing s with
  | nil => exact hs
  | cons m moves ih =>
    cases m with
    | commit c d => exact ih (h.keeps c d s hs)
    | fault f => exact ih (h.fault_keeps hs f)

theorem admits_before_run {s : σ} (hs : I (g.contents s)) (moves : List (StoreMove φ))
    {c : ScanCursor} (hadmits : g.Admits (g.contents (g.run s moves)) c) :
    g.Admits (g.contents s) c := by
  induction moves generalizing s with
  | nil => exact hadmits
  | cons m moves ih =>
    cases m with
    | commit c' d => exact (h.commit c' d s hs).admits_before (ih (h.keeps c' d s hs) hadmits)
    | fault f => exact h.fault f s ▸ ih (h.fault_keeps hs f) hadmits

/-- Behind a commit that did not fail the gate is closed for its cursor. -/
theorem closed_of_mem {s : σ} (hs : I (g.contents s)) {moves : List (StoreMove φ)}
    {c : ScanCursor} {d : AggregateDelta} {outcome : CommitOutcome}
    (hmem : ⟨c, d, .ok outcome⟩ ∈ g.submissions s moves) :
    ¬ g.Admits (g.contents (g.run s moves)) c := by
  induction moves generalizing s with
  | nil => cases hmem
  | cons m moves ih =>
    cases m with
    | fault f => exact ih (h.fault_keeps hs f) hmem
    | commit c' d' =>
      have hkept := h.keeps c' d' s hs
      rcases List.mem_cons.1 hmem with heq | hrest
      · rw [Submission.mk.injEq] at heq
        obtain ⟨rfl, rfl, hout⟩ := heq
        have heffect := h.commit c d s hs
        rw [← hout] at heffect
        intro hadmits
        exact heffect.closed_of_ok (h.admits_before_run hkept moves hadmits)
      · exact ih hkept hrest

theorem contents_of_closed {s : σ} (hs : I (g.contents s)) {again : List (StoreMove φ)}
    (hclosed : ∀ c d, .commit c d ∈ again → ¬ g.Admits (g.contents s) c) :
    g.contents (g.run s again) = g.contents s := by
  induction again generalizing s with
  | nil => rfl
  | cons m again ih =>
    have hfirst : g.contents (g.move s m) = g.contents s := by
      cases m with
      | commit c d => exact (h.commit c d s hs).eq_of_not_admits (hclosed c d (by simp))
      | fault f => exact h.fault f s
    have hrest := ih (s := g.move s m) (hfirst ▸ hs) fun c d hm => by
      rw [hfirst]
      exact hclosed c d (List.mem_cons_of_mem _ hm)
    exact hrest.trans hfirst

/-- The commits of one cursor that are applied lie behind the stored one, in ascending order. -/
theorem ascending_appliedTo {s : σ} (hs : I (g.contents s)) (moves : List (StoreMove φ))
    (chain : Chain) (target : TargetId) :
    ((g.appliedTo chain target s moves).Pairwise fun x y => x.cursor.block < y.cursor.block) ∧
      (∀ stored, g.cursor (g.contents s) chain target = some stored →
        ∀ x ∈ g.appliedTo chain target s moves, stored.block < x.cursor.block) ∧
      g.cursor (g.contents (g.run s moves)) chain target
        = ((g.appliedTo chain target s moves).getLast?.map (·.cursor)
            <|> g.cursor (g.contents s) chain target) := by
  induction moves generalizing s with
  | nil => exact ⟨.nil, fun _ _ x hx => (by cases hx), rfl⟩
  | cons m moves ih =>
    cases m with
    | fault f =>
      have hrest := ih (h.fault_keeps hs f)
      rw [h.fault] at hrest
      exact hrest
    | commit c d =>
      obtain ⟨hpairwise, hbehind, hlast⟩ := ih (h.keeps c d s hs)
      have heffect := h.commit c d s hs
      rw [appliedTo_commit]
      split_ifs with happlied
      · obtain ⟨houtcome, rfl, rfl⟩ := happlied
        obtain ⟨hopen, hmoved⟩ := heffect.of_applied houtcome
        have hself : g.cursor (g.contents (g.commit c d s).2) c.chain c.target = some c := by
          rw [hmoved, if_pos ⟨rfl, rfl⟩]
        have hfirst := hbehind c hself
        refine ⟨List.pairwise_cons.2 ⟨hfirst, hpairwise⟩, fun stored hstored x hx => ?_, ?_⟩
        · rcases List.mem_cons.1 hx with rfl | hx
          · exact hopen stored hstored
          · exact UInt64.lt_trans (hopen stored hstored) (hfirst x hx)
        · refine hlast.trans ?_
          rw [hself, List.getLast?_cons]
          cases (g.appliedTo c.chain c.target (g.commit c d s).2 moves).getLast? <;> rfl
      · rw [heffect.cursor_eq happlied] at hbehind hlast
        exact ⟨hpairwise, hbehind, hlast⟩

/-- A store behind a gate that starts without cursors. -/
theorem commitsOnce {start : σ} (hstart : I (g.contents start))
    (hcursors : ∀ chain target, g.cursor (g.contents start) chain target = none) :
    g.CommitsOnce start where
  outcome moves c d outcome houtcome := by
    have heffect := h.commit c d _ (h.run_keeps hstart moves)
    rw [houtcome] at heffect
    refine ⟨fun happlied => (heffect.of_applied (congrArg Except.ok happlied)).1, fun hopen => ?_⟩
    generalize g.contents (g.commit c d (g.run start moves)).2 = k' at heffect
    cases heffect with
    | applied => rfl
    | refused hclosed => exact absurd hopen hclosed
  unchanged moves c d hne := (h.commit c d _ (h.run_keeps hstart moves)).eq_of_ne_applied hne
  moved moves c d happlied :=
    ((h.commit c d _ (h.run_keeps hstart moves)).of_applied happlied).2
  ascending moves chain target := by
    obtain ⟨hpairwise, -, hlast⟩ := h.ascending_appliedTo hstart moves chain target
    rw [hcursors] at hlast
    refine ⟨hpairwise, hlast.trans ?_⟩
    cases (g.appliedTo chain target start moves).getLast? <;> rfl
  resubmitted moves again hagain := by
    refine h.contents_of_closed (h.run_keeps hstart moves) fun c d hm => ?_
    obtain ⟨outcome, hmem⟩ := hagain _ hm
    exact h.closed_of_mem hstart hmem

end Gated
end FaultyStore
end StakingIndexer
