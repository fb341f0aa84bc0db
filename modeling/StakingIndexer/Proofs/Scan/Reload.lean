import Mathlib
import StakingIndexer.Proofs.Scan.LocalWorld
import StakingIndexer.Proofs.Scan.SharedCursor

/-!
# A reload that fails

A scanner is to have the state as of its cursor. A reload takes over the stored cursor first and
the state after that, and a failure in between leaves the scanner at the new cursor with the state
of the old one. Behind a commit that was refused the stored cursor is always another one, so that
such a reload keeps the scanner whole only if it fails at the cursor already. The next window is
then folded from a state that lacks the blocks before it.
-/

namespace StakingIndexer
namespace BlockScanner

variable {ω : Type} {l : ScanLoop ω} {b b' : BlockScanner} {w w' : ω} {e : ScanError}

def storedCursor (l : ScanLoop ω) (w : ω) : Except StoreError (Option ScanCursor) :=
  (l.store.loadCursor l.target.chain l.target.id w).1

/-- A reload that fails does so at the cursor, or has taken it over. -/
theorem reload_error_cases (h : reload l b w = (.error e, b', w')) :
    (∃ failure, storedCursor l w = .error failure) ∧ b' = b ∨
      ∃ answer, storedCursor l w = .ok answer ∧
        b' = { b with cursor := (answer.map (·.block)).getD b.cursor } := by
  unfold reload at h
  unfold storedCursor
  generalize l.store.loadCursor l.target.chain l.target.id w = r at h ⊢
  obtain ⟨failure | answer, w₁⟩ := r
  · cases h
    exact .inl ⟨⟨failure, rfl⟩, rfl⟩
  · dsimp only at h
    generalize loadState l w₁ = r at h
    obtain ⟨e₁ | state, w₂⟩ := r
    · cases h
      refine .inr ⟨answer, rfl, ?_⟩
      cases answer <;> rfl
    · cases h

theorem state_commit_of_error {window : BlockWindow} {out : ScanOutput}
    (h : commit l window out b w = (.error e, b', w')) : b'.state = b.state := by
  unfold commit at h
  dsimp only at h
  generalize l.store.commit _ out.delta w = r at h
  obtain ⟨e₁ | _ | _, w₁⟩ := r
  · cases h
    rfl
  · cases h
  · dsimp only at h
    generalize hreload : reload l { b with phase := .committing window } w₁ = r at h
    obtain ⟨answer, b₂, w₂⟩ := r
    cases answer with
    | error e₂ =>
      cases h
      obtain ⟨-, rfl⟩ | ⟨answer, -, rfl⟩ := reload_error_cases hreload <;> rfl
    | ok _ => cases h

/-- A step that fails leaves the state as it is, whatever becomes of the cursor. -/
theorem state_step_of_error (h : step l b w = (.error e, b', w')) : b'.state = b.state := by
  unfold step at h
  dsimp only at h
  generalize l.target.currentHeight w = r at h
  obtain ⟨e₁ | height, w₁⟩ := r
  · cases h
    rfl
  · dsimp only at h
    cases hnext : Scan.nextWindow l.target.kind b.cursor height b.range with
    | none =>
      rw [hnext] at h
      cases h
    | some window =>
      rw [hnext] at h
      dsimp only at h
      generalize l.target.scan window b.state w₁ = r at h
      obtain ⟨out | e₁ | _ | _, w₂⟩ := r
      case output => exact state_commit_of_error (b := { b with phase := .scanning window }) h
      case failed =>
        cases h
        rfl
      all_goals cases h

theorem le_of_refused (c : SharedCursor l) {block : UInt64} (cursor : UInt64) {now : Int}
    {delta : AggregateDelta} {w₀ : ω} {answer : Option ScanCursor}
    (hrefused : l.store.commit ⟨l.target.chain, l.target.id, block, now⟩ delta w₀
      = (.ok .alreadyApplied, w))
    (hanswer : storedCursor l w = .ok answer) :
    block ≤ (answer.map (·.block)).getD cursor := by
  have hadvance := c.commit block now delta w₀
  rw [hrefused] at hadvance
  obtain ⟨p, hread, -, hstored⟩ := c.loadCursor w
  generalize hq : c.stored w = q at hadvance hread
  rw [hstored answer hanswer]
  cases hadvance with
  | refused _ hold hafter => exact c.le_getD_of_refused hold (c.trans hafter hread)

/-- A reload that fails never touches the state, and keeps the cursor just when it has read no
other one. Behind a refused commit it keeps the cursor only if that could not be read; else the
scanner stands at the end of the refused window or beyond it. -/
theorem reload_failed_keeps_iff (h : reload l b w = (.error e, b', w')) :
    b' = { b with cursor := b'.cursor } ∧
    (b'.cursor = b.cursor ∧ b'.state = b.state ↔
      ∀ stored, storedCursor l w = .ok (some stored) → stored.block = b.cursor) ∧
    ∀ (_ : SharedCursor l) (block : UInt64) (now : Int) (delta : AggregateDelta) (w₀ : ω),
      b.cursor < block →
      l.store.commit ⟨l.target.chain, l.target.id, block, now⟩ delta w₀
        = (.ok .alreadyApplied, w) →
      (b'.cursor = b.cursor ∧ b'.state = b.state ↔
        ∃ failure, storedCursor l w = .error failure) ∧
      ((∃ answer, storedCursor l w = .ok answer) → block ≤ b'.cursor) := by
  obtain ⟨⟨failure, hfailure⟩, rfl⟩ | ⟨answer, hanswer, rfl⟩ := reload_error_cases h
  · refine ⟨rfl, ⟨fun _ stored hstored => ?_, fun _ => ⟨rfl, rfl⟩⟩, ?_⟩
    · cases hfailure.symm.trans hstored
    · intro _ block now delta w₀ _ _
      refine ⟨⟨fun _ => ⟨failure, hfailure⟩, fun _ => ⟨rfl, rfl⟩⟩, ?_⟩
      rintro ⟨answer, hanswer⟩
      cases hfailure.symm.trans hanswer
  · refine ⟨rfl, ⟨?_, fun hsame => ⟨?_, rfl⟩⟩, ?_⟩
    · rintro ⟨hcursor, -⟩ stored hstored
      obtain rfl : answer = some stored := Except.ok.inj (hanswer.symm.trans hstored)
      exact hcursor
    · cases answer with
      | none => rfl
      | some stored => exact hsame stored hanswer
    · intro c block now delta w₀ hblock hrefused
      have hle := le_of_refused c b.cursor hrefused hanswer
      refine ⟨⟨?_, ?_⟩, fun _ => hle⟩
      · rintro ⟨hcursor, -⟩
        exact absurd (UInt64.lt_of_lt_of_le hblock (hcursor ▸ hle)) (UInt64.lt_irrefl _)
      · rintro ⟨failure, hfailure⟩
        cases hanswer.symm.trans hfailure

end BlockScanner

namespace LocalIndexer

/-- The store, while states cannot be read from it. -/
def unreadable : CheckpointStore LocalIndexer :=
  { checkpoints with loadState := fun _ => throw (.unavailable "connection lost") }

def loopOver (store : CheckpointStore LocalIndexer) : ScanLoop LocalIndexer where
  target := EventsTarget.target (.ofConstants .standard 1) .parachain link store height logs 1
  store
  publish
  now _ := 0
  config := tenBlocks

/-- A loop that cannot read its state has its cursor all the same. -/
theorem nonempty_sharedCursor : Nonempty (SharedCursor (loopOver unreadable)) := by
  refine ⟨{
    stored := fun w => w.store.block? .parachain .events
    writes := Eq
    refl := fun _ => rfl
    trans := Eq.trans
    forward := ?_
    touches := ?_
    loadState := fun _ => rfl
    loadCursor := ?_
    commit := ?_ }⟩
  · intro p q h
    subst h
    cases p with
    | none => exact Option.none_le
    | some block => exact Option.some_le_some.2 UInt64.le_rfl
  · intro w w' h
    rw [store_of_touches (l := loopOver unreadable) rfl rfl h]
  · intro w
    refine ⟨_, rfl, rfl, fun answer hanswer => ?_⟩
    cases hanswer
    rfl
  · intro block now delta w
    exact MemoryStore.advance_commit (fun _ => rfl) w.store ⟨.parachain, .events, block, now⟩ delta

/-- An account is given ten, and passes four of them on. -/
abbrev twoTransfers : List Event :=
  [⟨1, 0, .transfer .zero (.ofNat 2) (.ofUInt64 10)⟩,
    ⟨2, 0, .transfer (.ofNat 2) (.ofNat 3) (.ofUInt64 4)⟩]

def transfersChain (height : UInt64) (store : MemoryStore) : LocalIndexer :=
  { depositChain height store with
    chain := { LocalChain.empty [] with height, events := twoTransfers } }

/-- A scanner stores the first block. -/
def firstStored : MemoryStore :=
  (BlockScanner.step (loopOver checkpoints) freshScanner (transfersChain 1 .empty)).2.2.store

/-- A second scanner, which was started before that, comes to the first block. -/
abbrev overrun : Except ScanError StepOutcome × BlockScanner × LocalIndexer :=
  BlockScanner.step (loopOver unreadable) freshScanner (transfersChain 1 firstStored)

abbrev goneOn : Except ScanError StepOutcome × BlockScanner × LocalIndexer :=
  BlockScanner.step (loopOver unreadable) overrun.2.1 (transfersChain 2 overrun.2.2.store)

end LocalIndexer

open LocalIndexer in
/-- Behind the refused commit of the first block the cursor is taken over, and its state is not. -/
theorem BlockScanner.reload_failed_keeps_iff_unreadable :
    ∃ b' w', BlockScanner.reload (loopOver unreadable) freshScanner (transfersChain 1 firstStored)
        = (.error (.store (.unavailable "connection lost")), b', w') ∧
      b' = { freshScanner with cursor := b'.cursor } ∧
      ¬ (b'.cursor = freshScanner.cursor ∧ b'.state = freshScanner.state) ∧ 1 ≤ b'.cursor := by
  have hread : BlockScanner.storedCursor (loopOver unreadable) (transfersChain 1 firstStored)
      = .ok (some ⟨.parachain, .events, 1, 0⟩) := by
    decide +kernel
  have hfailed : (BlockScanner.reload (loopOver unreadable) freshScanner
      (transfersChain 1 firstStored)).1 = .error (.store (.unavailable "connection lost")) := by
    decide +kernel
  have hrefused : (loopOver unreadable).store.commit ⟨.parachain, .events, 1, 0⟩
      { chain := .parachain } (transfersChain 1 firstStored)
        = (.ok .alreadyApplied, transfersChain 1 firstStored) := by
    have hcommit : MemoryStore.commit ⟨.parachain, .events, 1, 0⟩ { chain := .parachain }
        firstStored = (.ok .alreadyApplied, firstStored) := by
      rw [MemoryStore.commit_of_ready (by decide +kernel), if_neg (by decide +kernel)]
    exact congrArg (Prod.map id (transfersChain 1)) hcommit
  obtain ⟨hkept, hiff, hbehind⟩ := BlockScanner.reload_failed_keeps_iff (Prod.ext hfailed rfl)
  obtain ⟨c⟩ := nonempty_sharedCursor
  obtain ⟨-, hbeyond⟩ := hbehind c 1 0 _ _ (by decide +kernel) hrefused
  refine ⟨_, _, Prod.ext hfailed rfl, hkept, fun hsame => ?_, hbeyond ⟨_, hread⟩⟩
  exact absurd (hiff.1 hsame _ hread) (by decide +kernel)

open LocalIndexer in
/-- The second scanner fails with the cursor of the first block and the state before it. Its next
window then takes the account's balance to be spent, where six are left. -/
theorem BlockScanner.reload_failed_mixes_blocks :
    freshScanner.cursor = 0 ∧
    overrun.1 = .error (.store (.unavailable "connection lost")) ∧
    overrun.2.1.cursor = 1 ∧ overrun.2.1.state = freshScanner.state ∧
    goneOn.1 = .ok (.committed ⟨2, 2⟩) ∧
    ((goneOn.2.2.store.aggregate .parachain).holderBalances.get? (.ofNat 2) = none ∧
      (goneOn.2.2.store.aggregate .parachain).holdersNumber = 1) ∧
    ((EventAggregator.window (.ofConstants .standard 1) (.empty .parachain) twoTransfers
        []).state.holderBalances.get? (.ofNat 2) = some (.ofUInt64 6) ∧
      (EventAggregator.window (.ofConstants .standard 1) (.empty .parachain) twoTransfers
        []).state.holdersNumber = 2) := by
  have hfailed : overrun.1 = .error (.store (.unavailable "connection lost")) := by
    decide +kernel
  have hstate : overrun.2.1.state = freshScanner.state :=
    BlockScanner.state_step_of_error (Prod.ext hfailed rfl)
  refine ⟨by decide +kernel, hfailed, by decide +kernel, hstate, by decide +kernel,
    ⟨by decide +kernel, by decide +kernel⟩, ?_⟩
  rw [EventAggregator.window, Event.ordered_eq_self (by decide : twoTransfers.Pairwise _)]
  exact ⟨by decide +kernel, by decide +kernel⟩

end StakingIndexer
