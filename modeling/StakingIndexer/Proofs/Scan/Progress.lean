import Mathlib
import StakingIndexer.Proofs.Scan.SharedCursor

/-!
# The progress of a loop

Any loop over a store that compares and advances its cursor makes sound steps, whatever its
chain answers and whoever else moves the cursor: the range stays within its bounds, the windows
lie right behind the cursor, and the cursor moves forward. If nobody else moves the cursor, the
committed windows of a ranged target follow one another without a gap.
-/

namespace StakingIndexer

namespace Scan

theorem toNat_shrinkRange (range : UInt64) :
    (shrinkRange range).toNat = max (range.toNat - max (range.toNat / 10) 1) 1 := by
  have htenth : range / 10 ≤ range := by
    rw [UInt64.le_iff_toNat_le, UInt64.toNat_div]
    exact Nat.div_le_self _ _
  have hshrunk : (max (range - range / 10) 1).toNat
      = max (range.toNat - range.toNat / 10) 1 := by
    rw [Word.toNat_max, UInt64.toNat_sub_of_le _ _ htenth, UInt64.toNat_div]
    rfl
  unfold shrinkRange
  dsimp only
  split_ifs with h
  · obtain ⟨hsame, hone⟩ := h
    rw [← UInt64.toNat_inj, hshrunk] at hsame
    have hone' := UInt64.lt_iff_toNat_lt.1 hone
    rw [UInt64.toNat_sub_of_le _ _ (UInt64.le_of_lt hone)]
    rw [UInt64.toNat_one] at hone' ⊢
    omega
  · rw [not_and_or, ← UInt64.toNat_inj, hshrunk, UInt64.lt_iff_toNat_lt, UInt64.toNat_one] at h
    rw [hshrunk]
    omega

theorem one_le_shrinkRange (range : UInt64) : 1 ≤ shrinkRange range := by
  rw [UInt64.le_iff_toNat_le, toNat_shrinkRange]
  exact Nat.le_max_right _ _

theorem shrinkRange_le {range : UInt64} (h : 1 ≤ range) : shrinkRange range ≤ range := by
  rw [UInt64.le_iff_toNat_le, UInt64.toNat_one] at h
  rw [UInt64.le_iff_toNat_le, toNat_shrinkRange]
  omega

theorem shrinkRange_lt {range : UInt64} (h : 1 < range) : shrinkRange range < range := by
  rw [UInt64.lt_iff_toNat_lt, UInt64.toNat_one] at h
  rw [UInt64.lt_iff_toNat_lt, toNat_shrinkRange]
  omega

end Scan

/-! ## Passes -/

/-- A pass of a loop: the scanner before it, the calls to the chain, what came of the step, and
the scanner after it. -/
structure PassRecord where
  before : BlockScanner
  calls : List ChainCall
  outcome : Except ScanError StepOutcome
  after : BlockScanner

namespace BlockScanner

variable {ω : Type} {l : ScanLoop ω} {w : ω} {b : BlockScanner}

def record (l : ScanLoop ω) (b : BlockScanner) (w : ω) : PassRecord :=
  ⟨b, calls l b w, (pass l b w).1.outcome, (pass l b w).2.1⟩

def rangeAfter (kind : WindowKind) (outcome : Except ScanError StepOutcome) (range : UInt64) :
    UInt64 :=
  match outcome with
  | .error e => if (e.recovery kind).shrinks then Scan.shrinkRange range else range
  | .ok _ => range

theorem outcome_pass (b : BlockScanner) (w : ω) :
    (pass l b w).1.outcome = (step l b w).1 := by
  unfold pass
  rcases step l b w with ⟨e | outcome, b', w'⟩ <;> rfl

theorem cursor_pass (b : BlockScanner) (w : ω) :
    (pass l b w).2.1.cursor = (step l b w).2.1.cursor := by
  unfold pass
  rcases step l b w with ⟨e | outcome, b', w'⟩
  · dsimp only [onError]
    cases e.recovery l.target.kind <;> rfl
  · rfl

theorem range_pass (b : BlockScanner) (w : ω) :
    (pass l b w).2.1.range = rangeAfter l.target.kind (step l b w).1 (step l b w).2.1.range := by
  unfold pass
  rcases step l b w with ⟨e | outcome, b', w'⟩
  · dsimp only [onError, rangeAfter]
    cases e.recovery l.target.kind <;> rfl
  · rfl

theorem one_le_fullRange (l : ScanLoop ω) : 1 ≤ fullRange l := by
  rw [fullRange, UInt64.le_iff_toNat_le, Word.toNat_max]
  exact Nat.le_max_right _ _

end BlockScanner

section

variable {kind : WindowKind} {outcome : Except ScanError StepOutcome} {range : UInt64}

theorem BlockScanner.one_le_rangeAfter (h : 1 ≤ range) :
    1 ≤ rangeAfter kind outcome range := by
  unfold rangeAfter
  split
  · split_ifs
    · exact Scan.one_le_shrinkRange range
    · exact h
  · exact h

theorem BlockScanner.rangeAfter_le (h : 1 ≤ range) :
    rangeAfter kind outcome range ≤ range := by
  unfold rangeAfter
  split
  · split_ifs
    · exact Scan.shrinkRange_le h
    · exact UInt64.le_refl _
  · exact UInt64.le_refl _

theorem BlockScanner.rangeAfter_lt {e : ScanError} (hshrinks : (e.recovery kind).shrinks)
    (h : 1 < range) : rangeAfter kind (.error e) range < range := by
  dsimp only [rangeAfter]
  rw [if_pos hshrinks]
  exact Scan.shrinkRange_lt h

end

def ScanLoop.Admits {ω : Type} (l : ScanLoop ω) (range : UInt64) : Prop :=
  1 ≤ range ∧ range ≤ BlockScanner.fullRange l

/-- What every pass of a loop keeps to: at most one window is handed over, which lies behind
the cursor, only that one is committed, and only a commit lets the range grow. -/
structure PassRecord.Sound {ω : Type} (l : ScanLoop ω) (r : PassRecord) : Prop where
  range_before : l.Admits r.before.range
  range_after : l.Admits r.after.range
  committed_of_grown : r.before.range < r.after.range →
    ∃ window, r.outcome = .ok (.committed window)
  range_of_committed : ∀ window, r.outcome = .ok (.committed window) →
    r.after.range = BlockScanner.fullRange l
  range_of_shrinking : ∀ e, r.outcome = .error e → (e.recovery l.target.kind).shrinks →
    1 < r.before.range → r.after.range < r.before.range
  calls : r.calls = [] ∨ (∃ height, r.calls = [.height height]) ∨
    ∃ height window, r.calls = [.height height, .scan window] ∧
      Scan.Follows r.before.cursor height r.before.range window l.target.kind
  scan_of_committed : ∀ window, r.outcome = .ok (.committed window) → .scan window ∈ r.calls
  cursor_of_committed : ∀ window, r.outcome = .ok (.committed window) →
    r.after.cursor = window.last
  cursor_le : r.before.cursor ≤ r.after.cursor
  cursor_lt : ∀ window, r.outcome = .ok (.committed window) ∨
    r.outcome = .ok (.alreadyApplied window) → r.before.cursor < r.after.cursor

/-- A pass that commits nothing is sound if it does not move the cursor back. -/
theorem PassRecord.Sound.of_uncommitted {ω : Type} {l : ScanLoop ω} {r : PassRecord}
    (hb : l.Admits r.before.range)
    (hcalls : r.calls = [] ∨ (∃ height, r.calls = [.height height]) ∨
      ∃ height window, r.calls = [.height height, .scan window] ∧
        Scan.Follows r.before.cursor height r.before.range window l.target.kind)
    (hrange : r.after.range
      = BlockScanner.rangeAfter l.target.kind r.outcome r.before.range)
    (hcommitted : ∀ window, r.outcome ≠ .ok (.committed window))
    (hle : r.before.cursor ≤ r.after.cursor)
    (hlt : ∀ window, r.outcome = .ok (.alreadyApplied window) →
      r.before.cursor < r.after.cursor) : r.Sound l where
  range_before := hb
  range_after := by
    rw [hrange]
    exact ⟨BlockScanner.one_le_rangeAfter hb.1,
      UInt64.le_trans (BlockScanner.rangeAfter_le hb.1) hb.2⟩
  committed_of_grown hgrown := by
    rw [hrange] at hgrown
    exact absurd (BlockScanner.rangeAfter_le hb.1) (UInt64.not_le.2 hgrown)
  range_of_committed window h := absurd h (hcommitted window)
  range_of_shrinking e houtcome hshrinks hone := by
    rw [hrange, houtcome]
    exact BlockScanner.rangeAfter_lt hshrinks hone
  calls := hcalls
  scan_of_committed window h := absurd h (hcommitted window)
  cursor_of_committed window h := absurd h (hcommitted window)
  cursor_le := hle
  cursor_lt window h := h.elim (fun h => absurd h (hcommitted window)) (hlt window)

/-- Every pass is sound, whoever else moves the cursor. -/
theorem SharedCursor.sound_record {ω : Type} {l : ScanLoop ω} (c : SharedCursor l)
    {b : BlockScanner} (hb : l.Admits b.range) (w : ω) : (BlockScanner.record l b w).Sound l := by
  have hstep := c.step_effect b hb.1 w
  have hcalls := BlockScanner.calls_cases (l := l) (w := w) hb.1
  have hcursor := BlockScanner.cursor_pass (l := l) b w
  have hrange := BlockScanner.range_pass (l := l) b w
  unfold BlockScanner.record
  rw [BlockScanner.outcome_pass]
  generalize BlockScanner.step l b w = r at hstep hcursor hrange ⊢
  obtain ⟨outcome, b', w'⟩ := r
  dsimp only at hstep hcursor hrange ⊢
  generalize c.stored w' = q at hstep
  cases hstep with
  | stayed hcommitted hoverrun hkept hsame =>
    rw [hkept] at hcursor
    rw [hsame] at hrange
    exact .of_uncommitted hb hcalls hrange hcommitted (hcursor ▸ UInt64.le_refl _)
      fun window h => absurd h (hoverrun window)
  | overrun hcommitted hlast _ _ hreached hsame =>
    rw [hsame] at hrange
    have hlt := UInt64.lt_of_lt_of_le hlast hreached
    rw [← hcursor] at hlt
    exact .of_uncommitted hb hcalls hrange hcommitted (UInt64.le_of_lt hlt) fun _ _ => hlt
  | @committed window _ _ hscan hlast hreached hfull =>
    rw [hreached] at hcursor
    have hfull : (BlockScanner.pass l b w).2.1.range = BlockScanner.fullRange l :=
      hrange.trans hfull
    have hlt := hlast
    rw [← hcursor] at hlt
    exact {
      range_before := hb
      range_after := by
        dsimp only
        rw [hfull]
        exact ⟨BlockScanner.one_le_fullRange l, UInt64.le_refl _⟩
      committed_of_grown := fun _ => ⟨window, rfl⟩
      range_of_committed := fun _ _ => hfull
      range_of_shrinking := fun _ h => by cases h
      calls := hcalls
      scan_of_committed := fun _ h => by cases h; exact hscan
      cursor_of_committed := fun _ h => by cases h; exact hcursor
      cursor_le := UInt64.le_of_lt hlt
      cursor_lt := fun _ _ => hlt }

theorem SharedCursor.writes_pass {ω : Type} {l : ScanLoop ω} (c : SharedCursor l)
    (b : BlockScanner) (w : ω) :
    c.writes (c.stored (BlockScanner.step l b w).2.2)
      (c.stored (BlockScanner.pass l b w).2.2) := by
  unfold BlockScanner.pass
  rcases BlockScanner.step l b w with ⟨e | outcome, b', w'⟩
  · dsimp only [BlockScanner.onError]
    cases e.recovery l.target.kind
    · exact c.refl _
    all_goals exact c.touches (.publish _)
  · exact c.refl _

/-! ## Runs -/

/-- Windows that follow one another from a cursor to another one. -/
inductive Consecutive (cursor : UInt64) : List BlockWindow → UInt64 → Prop
  | nil : Consecutive cursor [] cursor
  | snoc {windows : List BlockWindow} {window : BlockWindow} {last : UInt64}
      (before : Consecutive cursor windows last) (hfirst : window.first.toNat = last.toNat + 1)
      (hlast : last < window.last) : Consecutive cursor (windows ++ [window]) window.last

namespace Consecutive

variable {cursor last : UInt64} {windows : List BlockWindow}

theorem le (h : Consecutive cursor windows last) : cursor ≤ last := by
  induction h with
  | nil => exact UInt64.le_refl _
  | snoc _ _ hlast ih => exact UInt64.le_trans ih (UInt64.le_of_lt hlast)

theorem last_le (h : Consecutive cursor windows last) : ∀ v ∈ windows, v.last ≤ last := by
  induction h with
  | nil => exact fun _ hv => by cases hv
  | snoc _ _ hlast ih =>
    intro v hv
    rcases List.mem_append.1 hv with hv | hv
    · exact UInt64.le_trans (ih v hv) (UInt64.le_of_lt hlast)
    · rw [List.mem_singleton.1 hv]
      exact UInt64.le_refl _

theorem getLast?_last (h : Consecutive cursor windows last) :
    ∀ v ∈ windows.getLast?, v.last = last := by
  cases h with
  | nil => exact fun _ hv => by cases hv
  | snoc =>
    intro v hv
    rw [List.getLast?_concat] at hv
    cases hv
    rfl

theorem isChain (h : Consecutive cursor windows last) :
    windows.IsChain fun v w => w.first.toNat = v.last.toNat + 1 := by
  induction h with
  | nil => exact .nil
  | snoc before hfirst hlast ih =>
    refine List.isChain_append.2 ⟨ih, .singleton _, fun v hv w hw => ?_⟩
    cases hw
    rw [before.getLast?_last v hv]
    exact hfirst

theorem disjoint (h : Consecutive cursor windows last) :
    windows.Pairwise fun v w => v.last < w.first := by
  induction h with
  | nil => exact .nil
  | snoc before hfirst hlast ih =>
    refine List.pairwise_append.2 ⟨ih, List.pairwise_singleton _ _, fun v hv w hw => ?_⟩
    rw [List.mem_singleton.1 hw, UInt64.lt_iff_toNat_lt, hfirst]
    exact Nat.lt_succ_of_le (UInt64.le_iff_toNat_le.1 (before.last_le v hv))

/-- Together the windows hold the blocks behind the first cursor up to the last one. -/
theorem exists_contains_iff (h : Consecutive cursor windows last) (block : UInt64) :
    (∃ v ∈ windows, v.contains block) ↔ cursor < block ∧ block ≤ last := by
  induction h with
  | nil =>
    refine ⟨fun ⟨_, hv, _⟩ => absurd hv List.not_mem_nil, fun ⟨hlt, hle⟩ => ?_⟩
    exact absurd hle (UInt64.not_le.2 hlt)
  | @snoc windows window last before hfirst hlast ih =>
    have hwindow : (∃ v ∈ windows ++ [window], v.contains block)
        ↔ (∃ v ∈ windows, v.contains block) ∨ window.contains block := by
      simp only [List.mem_append, List.mem_singleton, or_and_right, exists_or, exists_eq_left]
    rw [hwindow, ih, BlockWindow.contains_iff]
    have hle := before.le
    simp only [UInt64.le_iff_toNat_le, UInt64.lt_iff_toNat_lt] at hle hlast ⊢
    rw [hfirst]
    omega

end Consecutive

def PassRecord.window? (r : PassRecord) : Option BlockWindow :=
  match r.outcome with
  | .ok (.committed window) => some window
  | _ => none

def PassRecord.committed (records : List PassRecord) : List BlockWindow :=
  records.filterMap window?

theorem PassRecord.committed_concat (records : List PassRecord) (r : PassRecord) :
    committed (records ++ [r]) = committed records ++ r.window?.toList := by
  rw [committed, List.filterMap_append, committed]
  cases h : r.window? <;> simp [h]

theorem PassRecord.window?_eq_none {r : PassRecord}
    (h : ∀ window, r.outcome ≠ .ok (.committed window)) : r.window? = none := by
  unfold window?
  split
  · exact absurd ‹_› (h _)
  · rfl

theorem PassRecord.window?_eq_some {r : PassRecord} {window : BlockWindow}
    (h : r.outcome = .ok (.committed window)) : r.window? = some window := by
  rw [window?, h]

/-- The passes of a scanner since it was started, oldest first, and where they have led.
Between two passes the world may change in any way in which the other writers keep to the
rules of the store. -/
inductive SharedCursor.Passes {ω : Type} {l : ScanLoop ω} (c : SharedCursor l)
    (start : BlockScanner) : List PassRecord → BlockScanner → ω → Prop
  | start {w₀ w : ω} (hnew : BlockScanner.new l w₀ = (.ok start, w)) : Passes c start [] start w
  | pass {records : List PassRecord} {b : BlockScanner} {w : ω}
      (before : Passes c start records b w) :
      Passes c start (records ++ [BlockScanner.record l b w]) (BlockScanner.pass l b w).2.1
        (BlockScanner.pass l b w).2.2
  | drift {records : List PassRecord} {b : BlockScanner} {w w' : ω}
      (before : Passes c start records b w) (hwrites : c.writes (c.stored w) (c.stored w')) :
      Passes c start records b w'

namespace SharedCursor.Passes

variable {ω : Type} {l : ScanLoop ω} {c : SharedCursor l} {start b : BlockScanner}
  {records : List PassRecord} {w : ω}

theorem admits (h : c.Passes start records b w) : l.Admits b.range := by
  induction h with
  | start hnew =>
    rw [(c.new_effect hnew).1]
    exact ⟨BlockScanner.one_le_fullRange l, UInt64.le_refl _⟩
  | pass _ ih => exact (c.sound_record ih _).range_after
  | drift _ _ ih => exact ih

theorem sound (h : c.Passes start records b w) : ∀ r ∈ records, r.Sound l := by
  induction h with
  | start => exact fun _ hr => by cases hr
  | pass before ih =>
    intro r hr
    rcases List.mem_append.1 hr with hr | hr
    · exact ih r hr
    · rw [List.mem_singleton.1 hr]
      exact c.sound_record before.admits _
  | drift _ _ ih => exact ih

theorem cursor_le (h : c.Passes start records b w) :
    start.cursor ≤ b.cursor ∧ ∀ r ∈ records, r.after.cursor ≤ b.cursor := by
  induction h with
  | start => exact ⟨UInt64.le_refl _, fun _ hr => by cases hr⟩
  | @pass records b w before ih =>
    have hle : b.cursor ≤ (BlockScanner.pass l b w).2.1.cursor :=
      (c.sound_record before.admits w).cursor_le
    refine ⟨UInt64.le_trans ih.1 hle, fun r hr => ?_⟩
    rcases List.mem_append.1 hr with hr | hr
    · exact UInt64.le_trans (ih.2 r hr) hle
    · rw [List.mem_singleton.1 hr]
      exact UInt64.le_refl _
  | drift _ _ ih => exact ih

theorem pairwise_cursor (h : c.Passes start records b w) :
    (start.cursor :: records.map (·.after.cursor)).Pairwise (· ≤ ·) := by
  induction h with
  | start => exact List.pairwise_singleton _ _
  | @pass records b w before ih =>
    have hle : b.cursor ≤ (BlockScanner.pass l b w).2.1.cursor :=
      (c.sound_record before.admits w).cursor_le
    obtain ⟨hstart, hafter⟩ := before.cursor_le
    rw [List.map_append, ← List.cons_append]
    refine List.pairwise_append.2 ⟨ih, List.pairwise_singleton _ _, fun x hx y hy => ?_⟩
    rw [List.mem_singleton.1 hy]
    refine UInt64.le_trans ?_ hle
    rcases List.mem_cons.1 hx with rfl | hx
    · exact hstart
    · obtain ⟨r, hr, rfl⟩ := List.mem_map.1 hx
      exact hafter r hr
  | drift _ _ ih => exact ih

/-- Without other writers, the committed windows of a ranged target lead from the first cursor
to the cursor, and nothing beyond the cursor is stored. -/
theorem consecutive (h : c.Passes start records b w) (halone : ∀ p q, c.writes p q → q = p)
    (hkind : l.target.kind = .ranged) :
    Consecutive start.cursor (PassRecord.committed records) b.cursor ∧
      c.stored w ≤ some b.cursor := by
  induction h with
  | start hnew =>
    obtain ⟨-, p, hp, hcursor⟩ := c.new_effect hnew
    refine ⟨.nil, ?_⟩
    rw [halone _ _ hp, hcursor]
    cases p <;> simp
  | drift before hwrites ih =>
    rw [halone _ _ hwrites]
    exact ih
  | @pass records b w before ih =>
    obtain ⟨hconsecutive, hstored⟩ := ih
    have hpos := before.admits.1
    have hstep := c.step_effect b hpos w
    have hcursor := BlockScanner.cursor_pass (l := l) b w
    have houtcome : (BlockScanner.record l b w).outcome = (BlockScanner.step l b w).1 :=
      BlockScanner.outcome_pass b w
    rw [halone _ _ (c.writes_pass b w), PassRecord.committed_concat, hcursor]
    generalize BlockScanner.step l b w = r at hstep houtcome ⊢
    obtain ⟨outcome, b', w'⟩ := r
    dsimp only at hstep houtcome ⊢
    generalize c.stored w' = q at hstep
    cases hstep with
    | stayed hcommitted _ hkept _ hwrites =>
      rw [PassRecord.window?_eq_none (houtcome ▸ hcommitted), hkept, halone _ _ hwrites,
        Option.toList_none, List.append_nil]
      exact ⟨hconsecutive, hstored⟩
    | overrun _ hlast hbefore hold =>
      -- nothing beyond the cursor was stored
      rw [halone _ _ hbefore] at hold
      cases hp : c.stored w with
      | none => exact absurd (hp ▸ hold) Option.not_some_le_none
      | some stored =>
        rw [hp, Option.some_le_some] at hold hstored
        exact absurd (UInt64.le_trans hold hstored) (UInt64.not_le.2 hlast)
    | @committed window _ _ hscan hlast hreached _ hafter =>
      obtain ⟨height, hfollows⟩ := BlockScanner.follows_of_scan hpos hscan
      rw [hkind] at hfollows
      rw [halone _ _ hafter, hreached, PassRecord.window?_eq_some houtcome]
      exact ⟨hconsecutive.snoc hfollows.1 hlast, Option.some_le_some.2 (UInt64.le_refl _)⟩

/-- However heights, errors and other writers go: every pass is sound, the range stays within
its bounds, and the cursor never moves back. Without other writers, the windows that a ranged
target commits follow one another, are disjoint, and hold exactly the blocks behind the first
cursor up to the cursor. -/
theorem progress (h : c.Passes start records b w) :
    (∀ r ∈ records, r.Sound l) ∧ l.Admits b.range ∧
      (start.cursor :: records.map (·.after.cursor)).Pairwise (· ≤ ·) ∧
      ((∀ p q, c.writes p q → q = p) → l.target.kind = .ranged →
        (PassRecord.committed records).IsChain (fun v w => w.first.toNat = v.last.toNat + 1) ∧
          (PassRecord.committed records).Pairwise (fun v w => v.last < w.first) ∧
          ∀ block, (∃ v ∈ PassRecord.committed records, v.contains block) ↔
            start.cursor < block ∧ block ≤ b.cursor) := by
  refine ⟨h.sound, h.admits, h.pairwise_cursor, fun halone hkind => ?_⟩
  obtain ⟨hconsecutive, -⟩ := h.consecutive halone hkind
  exact ⟨hconsecutive.isChain, hconsecutive.disjoint, hconsecutive.exists_contains_iff⟩

end SharedCursor.Passes

/-- A chain whose heights are given in advance and which finds some windows too large,
beside a store in memory. -/
structure ScriptedChain where
  heights : List UInt64
  tooLarge : Nat
  store : MemoryStore

namespace ScriptedChain

def currentHeight : Action ScriptedChain ScanError UInt64 := fun w =>
  match w.heights with
  | [] => (.error (.chain (.decode "no height")), w)
  | height :: heights => (.ok height, { w with heights })

def scan (_ : BlockWindow) (state : AggregateState) (w : ScriptedChain) :
    ScanResult × ScriptedChain :=
  if w.tooLarge = 0 then (.output ⟨state, { chain := .parachain }, []⟩, w)
  else (.failed (.chain (.rangeTooLarge .parachain "too many results")),
    { w with tooLarge := w.tooLarge - 1 })

/-- A loop over the chain with three blocks in a window, four blocks before the last one that
there can be. -/
def loop : ScanLoop ScriptedChain where
  target := {
    id := .events
    chain := .parachain
    kind := .ranged
    initialCursor := Word.maxU64 - 3
    throttle := none
    currentHeight
    hydrate := pure
    scan
    gauges := fun _ _ => [] }
  store := MemoryStore.store.onPart (·.store) fun store w => { w with store }
  publish _ w := w
  now _ := 0
  config := ⟨3, 0, 0, 0⟩

theorem store_of_touches {w w' : ScriptedChain} (h : loop.Touches w w') : w'.store = w.store := by
  cases h with
  | currentHeight =>
    change (currentHeight w).2.store = _
    unfold currentHeight
    split <;> rfl
  | hydrate => rfl
  | scan window state =>
    change (scan window state w).2.store = _
    unfold scan
    split_ifs <;> rfl
  | publish => rfl

/-- The cursor of the loop, if nobody else writes. -/
def ownCursor : SharedCursor loop :=
  .ofMemory (·.store) (fun store w => { w with store }) (fun _ _ => rfl) rfl (fun p q => q = p)
    (fun _ => rfl) (fun h h' => h'.trans h) (fun h => by subst h; cases ‹Option UInt64› <;> simp)
    fun h => by rw [store_of_touches h]

/-- The chain stands at its last block, but for one answer. The first window is too large, and
the first commit fails. -/
def atLastBlock : ScriptedChain where
  heights := [Word.maxU64, 7, Word.maxU64, Word.maxU64, Word.maxU64, Word.maxU64]
  tooLarge := 1
  store := MemoryStore.empty.failNextCommits 1

def freshScanner : BlockScanner := ⟨Word.maxU64 - 3, .empty .parachain, 3, 0, .idle⟩

end ScriptedChain

open ScriptedChain in
/-- Six passes up to the last block: a window that is too large, a height below the cursor, a
commit that fails, two commits, and nothing left. -/
theorem SharedCursor.Passes.progress_atLastBlock :
    ∃ records b w, ownCursor.Passes freshScanner records b w ∧
      records.map (·.after.range) = [2, 2, 2, 3, 3, 3] ∧
      PassRecord.committed records
        = [⟨Word.maxU64 - 2, Word.maxU64 - 1⟩, ⟨Word.maxU64, Word.maxU64⟩] ∧
      (∀ r ∈ records, r.Sound loop) ∧
      ∀ block, (∃ v ∈ PassRecord.committed records, v.contains block) ↔
        Word.maxU64 - 3 < block ∧ block ≤ Word.maxU64 := by
  have hnew : BlockScanner.new loop atLastBlock = (.ok freshScanner, _) := rfl
  have hrun : ownCursor.Passes freshScanner _ _ _ :=
    .pass (.pass (.pass (.pass (.pass (.pass (.start hnew))))))
  obtain ⟨hsound, -, -, hcover⟩ := progress hrun
  refine ⟨_, _, _, hrun, by decide +kernel, by decide +kernel, hsound, ?_⟩
  exact (hcover (fun _ _ h => h) rfl).2.2

end StakingIndexer
