import Mathlib
import StakingIndexer.Proofs.Scan.Progress
import StakingIndexer.Proofs.Scan.StepCalls

/-!
# Retries without a pause

A window that has too many results is tried again at once, and narrower. Every other error is
followed by a pause. Narrowing ends at one block: between two commits the retries without a pause
are bounded by the range, but for those of a single block, which have no bound.
-/

namespace StakingIndexer

namespace Scan

theorem backoffDelay_eq (base greatest : Nat) (failures : UInt32) :
    backoffDelay base greatest failures = min (base * 2 ^ min failures.toNat 31) greatest := by
  rw [backoffDelay, Nat.shiftLeft_eq]

theorem backoffDelay_pos {base greatest : Nat} (hbase : 0 < base) (hgreatest : 0 < greatest)
    (failures : UInt32) : 0 < backoffDelay base greatest failures := by
  rw [backoffDelay_eq]
  have hdoubled : 0 < base * 2 ^ min failures.toNat 31 := by positivity
  exact lt_min hdoubled hgreatest

theorem nextWindow_of_le_one (kind : WindowKind) (cursor height : UInt64) {range : UInt64}
    (h : range ≤ 1) : nextWindow kind cursor height range = nextWindow kind cursor height 1 := by
  have hone : max range 1 = 1 := by
    apply UInt64.toNat_inj.1
    rw [Word.toNat_max]
    exact max_eq_right (UInt64.le_iff_toNat_le.1 h)
  unfold nextWindow
  simp only [hone]
  rfl

theorem shrinkRange_of_le_one {range : UInt64} (h : range ≤ 1) : shrinkRange range = 1 := by
  rw [UInt64.le_iff_toNat_le, UInt64.toNat_one] at h
  apply UInt64.toNat_inj.1
  rw [toNat_shrinkRange, UInt64.toNat_one]
  omega

theorem toNat_shrinkRange_sub_one (range : UInt64) :
    (shrinkRange range).toNat - 1 ≤ range.toNat - 1 - 1 := by
  rw [toNat_shrinkRange]
  omega

end Scan

/-- Only a ranged target tries again at once, and only if a window has too many results. -/
theorem ScanError.recovery_eq_shrinkRange_iff {e : ScanError} {kind : WindowKind} :
    e.recovery kind = .shrinkRange ↔
      kind = .ranged ∧ ∃ chain detail, e = .chain (.rangeTooLarge chain detail) := by
  constructor
  · intro h
    unfold recovery at h
    split at h
    · exact ⟨rfl, _, _, rfl⟩
    · cases h
    · cases h
  · rintro ⟨rfl, chain, detail, rfl⟩
    rfl

namespace BlockScanner

variable {ω : Type} {l : ScanLoop ω} {b : BlockScanner} {w : ω} {e : ScanError}

theorem onError_atOnce (h : e.recovery l.target.kind = .shrinkRange) :
    onError l e b w = (0, { b with range := Scan.shrinkRange b.range }, w) := by
  simp [onError, h, Recovery.shrinks]

def moreFailures (failures : UInt32) : UInt32 :=
  if failures = Word.maxU32 then failures else failures + 1

theorem onError_backoff (h : e.recovery l.target.kind ≠ .shrinkRange) :
    onError l e b w =
      (Scan.backoffDelay l.config.baseBackoff l.config.maxBackoff b.failures,
        { b with
          range := rangeAfter l.target.kind (.error e) b.range
          phase := .failed
          failures := moreFailures b.failures },
        l.publish (.plain (alertName l) 1.0) w) := by
  have hafter : rangeAfter l.target.kind (.error e) b.range
      = if (e.recovery l.target.kind).shrinks then Scan.shrinkRange b.range else b.range := rfl
  rw [hafter, onError, moreFailures]
  cases hrecovery : e.recovery l.target.kind with
  | shrinkRange => exact absurd hrecovery h
  | shrinkRangeAndBackoff => simp [Recovery.shrinks]
  | backoff => simp [Recovery.shrinks]

theorem onError_pause_eq_zero_iff (hbase : 0 < l.config.baseBackoff)
    (hmax : 0 < l.config.maxBackoff) :
    (onError l e b w).1 = 0 ↔ e.recovery l.target.kind = .shrinkRange := by
  by_cases h : e.recovery l.target.kind = .shrinkRange
  · simp [onError_atOnce h, h]
  · have hpos := Scan.backoffDelay_pos hbase hmax b.failures
    simp [onError_backoff h, h, Nat.pos_iff_ne_zero.1 hpos]

end BlockScanner

/-- A pass, and the scanner before it. -/
structure Turn where
  before : BlockScanner
  pass : BlockScanner.Pass

namespace Turn

/-- Whether the step failed, and is tried again without a pause. -/
def failsAtOnce (t : Turn) : Bool :=
  match t.pass.outcome with
  | .error _ => t.pass.pause == 0
  | .ok _ => false

/-- Whether the window had more than one block at most. -/
def canNarrow (t : Turn) : Bool := 1 < t.before.range

end Turn

namespace BlockScanner

variable {ω : Type}

def turn (l : ScanLoop ω) (b : BlockScanner) (w : ω) : Turn := ⟨b, (pass l b w).1⟩

/-- Passes without a commit, oldest first, and the scanner behind them. Before each of them the
world may be any. -/
inductive Stretch (l : ScanLoop ω) (start : BlockScanner) : List Turn → BlockScanner → Prop
  | nil : Stretch l start [] start
  | snoc {turns : List Turn} {b : BlockScanner} (before : Stretch l start turns b) (w : ω)
      (hopen : ∀ window, (pass l b w).1.outcome ≠ .ok (.committed window)) :
      Stretch l start (turns ++ [turn l b w]) (pass l b w).2.1

variable {l : ScanLoop ω} {b start : BlockScanner} {w : ω} {turns : List Turn}

theorem pass_of_error {e : ScanError} {b' : BlockScanner} {w' : ω}
    (h : step l b w = (.error e, b', w')) :
    pass l b w = (⟨.error e, (onError l e b' w').1⟩, (onError l e b' w').2) := by
  rw [pass, h]

theorem pass_of_ok {outcome : StepOutcome} {b' : BlockScanner} {w' : ω}
    (h : step l b w = (.ok outcome, b', w')) :
    (pass l b w).1.outcome = .ok outcome ∧ (pass l b w).2 = (b', w') := by
  rw [pass, h]
  exact ⟨rfl, rfl⟩

theorem range_step (h : ∀ window, (step l b w).1 ≠ .ok (.committed window)) :
    (step l b w).2.1.range = b.range := by
  obtain ⟨calls, hsteps⟩ := steps_step l b w
  generalize step l b w = r at h hsteps ⊢
  obtain ⟨outcome, b', w'⟩ := r
  dsimp only at h hsteps ⊢
  cases hsteps with
  | noHeight | upToDate | scanFailed | cancelled | aborted | commitFailed => rfl
  | committed => exact absurd rfl (h _)
  | alreadyApplied _ _ hreload | notReloaded _ _ hreload => cases hreload <;> rfl

theorem failsAtOnce_turn_iff (hbase : 0 < l.config.baseBackoff) (hmax : 0 < l.config.maxBackoff) :
    (turn l b w).failsAtOnce ↔
      ∃ e, (step l b w).1 = .error e ∧ e.recovery l.target.kind = .shrinkRange := by
  cases hstep : step l b w with
  | mk outcome rest =>
  obtain ⟨b', w'⟩ := rest
  cases outcome with
  | ok outcome => simp [Turn.failsAtOnce, turn, (pass_of_ok hstep).1]
  | error e =>
    simp [Turn.failsAtOnce, turn, pass_of_error hstep, onError_pause_eq_zero_iff hbase hmax]

/-- A pass without a commit does not widen the range, and narrows it if it is tried again at
once. -/
theorem range_pass_sub_one (hbase : 0 < l.config.baseBackoff) (hmax : 0 < l.config.maxBackoff)
    (h : ∀ window, (pass l b w).1.outcome ≠ .ok (.committed window)) :
    (pass l b w).2.1.range.toNat - 1
        + (if (turn l b w).failsAtOnce ∧ (turn l b w).canNarrow then 1 else 0)
      ≤ b.range.toNat - 1 := by
  rw [outcome_pass] at h
  have hrange := range_pass (l := l) b w
  rw [range_step h] at hrange
  have hatOnce := failsAtOnce_turn_iff hbase hmax (b := b) (w := w)
  have hsub := Scan.toNat_shrinkRange_sub_one b.range
  rw [hrange]
  cases houtcome : (step l b w).1 with
  | ok outcome =>
    rw [houtcome] at hatOnce
    have hno : ¬ (turn l b w).failsAtOnce := fun hyes => by simpa using hatOnce.1 hyes
    simp [rangeAfter, hno]
  | error e =>
    rw [houtcome] at hatOnce
    by_cases hshrinks : (e.recovery l.target.kind).shrinks
    · simp only [rangeAfter, hshrinks, Turn.canNarrow, turn, decide_eq_true_eq,
        UInt64.lt_iff_toNat_lt, UInt64.toNat_one, if_true]
      split_ifs <;> omega
    · have hno : ¬ (turn l b w).failsAtOnce := by
        intro hyes
        obtain ⟨_, heq, hrecovery⟩ := hatOnce.1 hyes
        cases heq
        exact hshrinks (by simp [hrecovery, Recovery.shrinks])
      simp [rangeAfter, hshrinks, hno]

/-- Every retry at once that can narrow the range takes a block off it. -/
theorem Stretch.countP_le (hbase : 0 < l.config.baseBackoff) (hmax : 0 < l.config.maxBackoff)
    (h : Stretch l start turns b) :
    b.range.toNat - 1 + turns.countP (fun t => t.failsAtOnce && t.canNarrow)
      ≤ start.range.toNat - 1 := by
  induction h with
  | nil => simp
  | snoc before w hopen ih =>
    have hpass := range_pass_sub_one hbase hmax hopen
    rw [List.countP_append, List.countP_singleton]
    simp only [Bool.and_eq_true]
    omega

/-! ## A single block -/

section SingleBlock

variable (hhydrate : ∀ state w chain detail,
  (l.target.hydrate state w).1 ≠ .error (.chain (.rangeTooLarge chain detail)))
include hhydrate

/-- A failure that is tried again at once comes before there was anything to commit. With a range
of one block it comes again, as long as the world is the same. -/
theorem Steps.again {calls : List LoopCall} {e : ScanError} {b' c : BlockScanner} {w' : ω}
    (h : Steps l b w calls (.error e) b' w') (hrecovery : e.recovery l.target.kind = .shrinkRange)
    (hb : b.range ≤ 1) (hc : c.range ≤ 1) (hcursor : c.cursor = b.cursor)
    (hstate : c.state = b.state) : step l c w = (.error e, { c with phase := b'.phase }, w') := by
  have hstore (cause : StoreError) :
      (ScanError.store cause).recovery l.target.kind ≠ .shrinkRange :=
    fun hstore => by cases hstore
  cases h with
  | noHeight hheight => rw [step, hheight]
  | @scanFailed height window _ _ hscan =>
    have hagain : Scans l c w height window (.failed e) w' := by
      refine ⟨hscan.height_eq, ?_, ?_⟩
      · rw [hcursor, Scan.nextWindow_of_le_one _ _ _ hc, ← Scan.nextWindow_of_le_one _ _ _ hb]
        exact hscan.window_eq
      · rw [hstate]
        exact hscan.scan_eq
    exact hagain.step_eq
  | commitFailed => exact absurd hrecovery (hstore _)
  | notReloaded _ _ hreload =>
    cases hreload with
    | noCursor | noState => exact absurd hrecovery (hstore _)
    | notHydrated _ _ hfailed =>
      obtain ⟨-, chain, detail, rfl⟩ := ScanError.recovery_eq_shrinkRange_iff.1 hrecovery
      exact absurd (congrArg Prod.fst hfailed) (hhydrate _ _ _ _)

/-- A single block can be tried again at once any number of times. -/
theorem Stretch.exists_longer (hbase : 0 < l.config.baseBackoff) (hmax : 0 < l.config.maxBackoff)
    (h : Stretch l start turns b) (hb : b.range ≤ 1) (hfails : (turn l b w).failsAtOnce) (n : Nat) :
    ∃ more c, Stretch l start (turns ++ more) c ∧ more.countP (·.failsAtOnce) = n ∧
      c.cursor = b.cursor ∧ c.state = b.state ∧ c.range ≤ 1 := by
  obtain ⟨e, he, hrecovery⟩ := (failsAtOnce_turn_iff hbase hmax).1 hfails
  obtain ⟨calls, hsteps⟩ := steps_step l b w
  rw [he] at hsteps
  induction n with
  | zero => exact ⟨[], b, by simpa using h, rfl, rfl, rfl, hb⟩
  | succ n ih =>
    obtain ⟨more, c, hlonger, hcount, hcursor, hstate, hc⟩ := ih
    have hagain := hsteps.again hhydrate hrecovery hb hc hcursor hstate
    have hpass := pass_of_error hagain
    rw [onError_atOnce hrecovery] at hpass
    have hopen : ∀ window, (pass l c w).1.outcome ≠ .ok (.committed window) := by
      simp [hpass]
    refine ⟨more ++ [turn l c w], _, by simpa using hlonger.snoc w hopen, ?_, ?_, ?_, ?_⟩
    · have hlast : (turn l c w).failsAtOnce := by simp [Turn.failsAtOnce, turn, hpass]
      simp [List.countP_append, hcount, hlast]
    · simpa [hpass] using hcursor
    · simpa [hpass] using hstate
    · simp [hpass, Scan.shrinkRange_of_le_one hc]

end SingleBlock

theorem Stretch.exists_before {t : Turn} (h : Stretch l start turns b) (ht : t ∈ turns) :
    ∃ turns' c w, Stretch l start turns' c ∧ t = turn l c w := by
  induction h with
  | nil => cases ht
  | snoc before w hopen ih =>
    obtain ht | ht := List.mem_append.1 ht
    · exact ih ht
    · exact ⟨_, _, w, before, List.mem_singleton.1 ht⟩

/-- A retry without a pause narrows the range just when there is more than one block in it. So there
are fewer of these between two commits than the range has blocks; and there are finitely many
retries without a pause just when none of them is of a single block. -/
theorem retries_bounded_iff (hbase : 0 < l.config.baseBackoff) (hmax : 0 < l.config.maxBackoff)
    (hhydrate : ∀ state w chain detail,
      (l.target.hydrate state w).1 ≠ .error (.chain (.rangeTooLarge chain detail))) :
    (∀ e b w, (onError l e b w).1 = 0 → ((onError l e b w).2.1.range < b.range ↔ 1 < b.range)) ∧
    ∀ start,
      (∀ turns b, Stretch l start turns b →
        turns.countP (fun t => t.failsAtOnce && t.canNarrow) ≤ start.range.toNat - 1) ∧
      ((∃ n, ∀ turns b, Stretch l start turns b → turns.countP (·.failsAtOnce) ≤ n) ↔
        ∀ turns b, Stretch l start turns b → ∀ t ∈ turns, t.failsAtOnce → t.canNarrow) := by
  refine ⟨fun e b w hpause => ?_, fun start => ⟨fun turns b h => ?_, ?_, ?_⟩⟩
  · rw [onError_atOnce ((onError_pause_eq_zero_iff hbase hmax).1 hpause)]
    refine ⟨fun hlt => ?_, Scan.shrinkRange_lt⟩
    by_contra hone
    rw [UInt64.not_lt] at hone
    dsimp only at hlt
    rw [Scan.shrinkRange_of_le_one hone] at hlt
    exact UInt64.not_lt.2 hone hlt
  · have hcount := h.countP_le hbase hmax
    omega
  · rintro ⟨n, hbound⟩ turns b h t ht hfails
    obtain ⟨turns', c, w, hbefore, rfl⟩ := h.exists_before ht
    by_contra hone
    have hc : c.range ≤ 1 := UInt64.not_lt.1 fun hlt => hone (decide_eq_true hlt)
    obtain ⟨more, d, hlonger, hcount, -⟩ :=
      hbefore.exists_longer hhydrate hbase hmax hc hfails (n + 1)
    have hle := hbound _ d hlonger
    rw [List.countP_append] at hle
    omega
  · intro hnarrow
    refine ⟨start.range.toNat - 1, fun turns b h => ?_⟩
    have hcount := h.countP_le hbase hmax
    have hsame : turns.countP (·.failsAtOnce)
        = turns.countP fun t => t.failsAtOnce && t.canNarrow := by
      refine List.countP_congr fun t ht => ?_
      have ht := hnarrow turns b h t ht
      simpa using ht
    omega

end BlockScanner

/-- A chain on which every block has too many results by itself: what was published, and the
passes that were made. -/
structure CrowdedChain where
  gauges : List Gauge
  passes : List BlockScanner.Pass

namespace CrowdedChain

def tooMany : ScanError := .chain (.rangeTooLarge .parachain "too many results")

/-- A loop over the chain, at whose head is block five. Its pauses are between a second and a
minute. -/
def loop (maxRange : UInt64) : ScanLoop CrowdedChain where
  target := {
    id := .events
    chain := .parachain
    kind := .ranged
    initialCursor := 0
    throttle := none
    currentHeight := pure 5
    hydrate := pure
    scan := fun _ _ w => (.failed tooMany, w)
    gauges := fun _ _ => [] }
  store := MemoryStore.store.onPart (fun _ => .empty) fun _ w => w
  publish g w := { w with gauges := w.gauges ++ [g] }
  now _ := 0
  config := ⟨maxRange, 1000, 1000, 60000⟩

def note (p : BlockScanner.Pass) (w : CrowdedChain) : CrowdedChain :=
  { w with passes := w.passes ++ [p] }

def scanner (range : UInt64) (phase : ScannerPhase := .idle) : BlockScanner :=
  ⟨0, .empty .parachain, range, 0, phase⟩

theorem pass_scanner (phase : ScannerPhase) (w : CrowdedChain) :
    BlockScanner.pass (loop 1) (scanner 1 phase) w
      = (⟨.error tooMany, 0⟩, scanner 1 (.scanning ⟨1, 1⟩), w) := by
  have hwindow : Scan.nextWindow .ranged 0 5 1 = some ⟨1, 1⟩ := by decide
  have hscan : BlockScanner.Scans (loop 1) (scanner 1 phase) w 5 ⟨1, 1⟩ (.failed tooMany) w :=
    ⟨rfl, hwindow, rfl⟩
  have hone : Scan.shrinkRange 1 = 1 := by decide
  rw [BlockScanner.pass_of_error hscan.step_eq, BlockScanner.onError_atOnce rfl]
  simp [scanner, hone]

theorem run_scanner (passes : Nat) (phase : ScannerPhase) (w : CrowdedChain) :
    (BlockScanner.run (loop 1) (fun _ => false) note passes (scanner 1 phase) w).2
      = { w with passes := w.passes ++ .replicate passes ⟨.error tooMany, 0⟩ } := by
  induction passes generalizing phase w with
  | zero => simp [BlockScanner.run]
  | succ passes ih =>
    rw [BlockScanner.run, pass_scanner]
    simp [BlockScanner.Pass.isLast, ih, note, List.replicate_succ]

end CrowdedChain

open CrowdedChain in
/-- Three blocks are narrowed to two and to one. -/
theorem BlockScanner.retries_bounded_iff_threeBlocks :
    (0 < (loop 3).config.baseBackoff ∧ 0 < (loop 3).config.maxBackoff) ∧
    ∃ turns b, Stretch (loop 3) (scanner 3) turns b ∧ b.range = 1 ∧
      turns.map (fun t => (t.before.range, t.pass.pause)) = [(3, 0), (2, 0)] ∧
      turns.countP (fun t => t.failsAtOnce && t.canNarrow) ≤ 2 := by
  obtain ⟨-, hstretch⟩ := retries_bounded_iff (l := loop 3) (by decide) (by decide)
    fun state w chain detail h => by cases h
  have hturns : Stretch (loop 3) (scanner 3) _ _ :=
    (Stretch.nil.snoc ⟨[], []⟩ fun _ h => by cases h).snoc ⟨[], []⟩ fun _ h => by cases h
  refine ⟨by decide, _, _, hturns, by decide, by decide, ?_⟩
  exact (hstretch (scanner 3)).1 _ _ hturns

open CrowdedChain in
/-- A block with too many results is tried again at once for ever, and no alert is published. -/
theorem BlockScanner.crowdedBlock_spins :
    (onError (loop 1) tooMany (scanner 1) ⟨[], []⟩ = (0, scanner 1, ⟨[], []⟩)) ∧
    ∀ passes, (run (loop 1) (fun _ => false) note passes (scanner 1) ⟨[], []⟩).2
      = ⟨[], .replicate passes ⟨.error tooMany, 0⟩⟩ := by
  refine ⟨rfl, fun passes => ?_⟩
  rw [run_scanner]
  rfl

end StakingIndexer
