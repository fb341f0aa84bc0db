import Mathlib
import StakingIndexer.Proofs.Scan.AppliedOnly
import StakingIndexer.Proofs.Scan.Recovery

/-!
# Alert and pauses of a failing loop

A loop counts its failures since the last commit. As long as there are any its alert is raised, and
each of them doubles the pause behind the next one up to a greatest pause. A window that is only to
be narrowed is no failure, and nothing but a commit takes the alert back.
-/

namespace StakingIndexer

variable {ω : Type}

/-- A registry of gauges in which the loop alone sets its alert. -/
structure AlertGauge (l : ScanLoop ω) where
  publisher : ω → Publisher
  publish : ∀ g w, publisher (l.publish g w) = (publisher w).set g
  asks : ∀ {w w'}, l.Asks w w' → (publisher w').get? (BlockScanner.alertName l)
    = (publisher w).get? (BlockScanner.alertName l)

theorem BlockScanner.alertName_notMem_healthKeys (l : ScanLoop ω) :
    alertName l ∉ EndpointPool.healthKeys := by
  have hkeys : ∀ (id : TargetId) (chain : Chain),
      EndpointPool.healthKey chain ≠ "alert_not_connected_" ++ id.name := by
    intro id chain
    cases id <;> cases chain <;> decide
  rintro ⟨chain, hchain⟩
  exact hkeys l.target.id chain hchain

/-- The pools do not set the alert of a loop. -/
def GaugeRegistry.alertGauge {l : ScanLoop ω} (r : GaugeRegistry l) : AlertGauge l where
  publisher := r.publisher
  publish := r.publish
  asks h := r.asks h (BlockScanner.alertName_notMem_healthKeys l)

namespace BlockScanner

theorem toNat_moreFailures (failures : UInt32) :
    (moreFailures failures).toNat = min (failures.toNat + 1) (2 ^ 32 - 1) := by
  have hlt := failures.toNat_lt
  have hmax : Word.maxU32.toNat = 2 ^ 32 - 1 := rfl
  unfold moreFailures
  split_ifs with h
  · rw [h, hmax]
    rfl
  · rw [← UInt32.toNat_inj, hmax] at h
    rw [UInt32.toNat_add]
    have hone : (1 : UInt32).toNat = 1 := rfl
    omega

namespace Pass

def commits (p : Pass) : Bool :=
  match p.outcome with
  | .ok (.committed _) => true
  | _ => false

/-- Whether the pass has failed, and not only for too wide a window. -/
def backsOff (kind : WindowKind) (p : Pass) : Bool :=
  match p.outcome with
  | .error e => e.recovery kind ≠ .shrinkRange
  | .ok _ => false

theorem commits_iff {p : Pass} : p.commits ↔ ∃ window, p.outcome = .ok (.committed window) := by
  unfold commits
  split
  · next window houtcome => simp [houtcome]
  · next hother => simpa using hother

end Pass

/-- The failures since the last commit, oldest first. -/
def recentFailures (kind : WindowKind) (passes : List Pass) : List Pass :=
  (passes.rtakeWhile fun p => !p.commits).filter (·.backsOff kind)

section RecentFailures

variable {kind : WindowKind} {passes : List Pass} {p : Pass}

@[simp] theorem recentFailures_nil : recentFailures kind [] = [] := rfl

theorem recentFailures_of_commits (h : p.commits) : recentFailures kind (passes ++ [p]) = [] := by
  rw [recentFailures, List.rtakeWhile_concat_neg _ _ _ (by simp [h])]
  rfl

theorem recentFailures_of_backsOff (hopen : ¬ p.commits) (h : p.backsOff kind) :
    recentFailures kind (passes ++ [p]) = recentFailures kind passes ++ [p] := by
  rw [recentFailures, List.rtakeWhile_concat_pos _ _ _ (by simp [hopen]), List.filter_append,
    recentFailures]
  simp [h]

theorem recentFailures_of_quiet (hopen : ¬ p.commits) (h : ¬ p.backsOff kind) :
    recentFailures kind (passes ++ [p]) = recentFailures kind passes := by
  rw [recentFailures, List.rtakeWhile_concat_pos _ _ _ (by simp [hopen]), List.filter_append,
    recentFailures]
  simp [h]

end RecentFailures

/-- What a pass makes of the number of failures and of the alert. -/
inductive Counts (l : ScanLoop ω) (failures : UInt32) (alert : Option Float) :
    Pass → UInt32 → Option Float → Prop
  | committed {p : Pass} (hcommits : p.commits) : Counts l failures alert p 0 (some 0.0)
  | failed {p : Pass} (hopen : ¬ p.commits) (hbacksOff : p.backsOff l.target.kind)
      (hpause : p.pause
        = Scan.backoffDelay l.config.baseBackoff l.config.maxBackoff failures) :
      Counts l failures alert p (moreFailures failures) (some 1.0)
  | quiet {p : Pass} (hopen : ¬ p.commits) (hquiet : ¬ p.backsOff l.target.kind) :
      Counts l failures alert p failures alert

namespace Counts

variable {l : ScanLoop ω} {failures failures' : UInt32} {alert alert' : Option Float} {p : Pass}
  {e : ScanError}

theorem pause_eq (h : Counts l failures alert p failures' alert') (houtcome : p.outcome = .error e)
    (hrecovery : e.recovery l.target.kind ≠ .shrinkRange) :
    p.pause = Scan.backoffDelay l.config.baseBackoff l.config.maxBackoff failures := by
  cases h with
  | committed hcommits => simp [Pass.commits, houtcome] at hcommits
  | failed _ _ hpause => exact hpause
  | quiet _ hquiet => simp [Pass.backsOff, houtcome, hrecovery] at hquiet

theorem eq_of_quiet (h : Counts l failures alert p failures' alert') (hopen : ¬ p.commits)
    (hquiet : ¬ p.backsOff l.target.kind) : failures' = failures ∧ alert' = alert := by
  cases h with
  | committed hcommits => exact absurd hcommits hopen
  | failed _ hbacksOff => exact absurd hbacksOff hquiet
  | quiet => exact ⟨rfl, rfl⟩

end Counts

end BlockScanner

namespace AlertGauge

open BlockScanner

variable {l : ScanLoop ω} (a : AlertGauge l) {b b' : BlockScanner} {w w' : ω}
  {calls : List LoopCall}

def alert (w : ω) : Option Float := (a.publisher w).get? (alertName l)

theorem alert_publish (value : Float) (w : ω) :
    a.alert (l.publish (.plain (alertName l) value) w) = some value := by
  rw [alert, a.publish, Publisher.get?_set]
  simp [Gauge.key, Gauge.plain]

theorem alert_committedGauges (window : BlockWindow) (out : ScanOutput) (w : ω) :
    a.alert (publishAll l (committedGauges l window out) w) = some 0.0 := by
  rw [publishAll, committedGauges, List.foldl_append]
  exact a.alert_publish 0.0 _

theorem alert_of_eq {α : Type} {f : ω → α × ω} (hasks : l.Asks w (f w).2) {answer : α}
    (h : f w = (answer, w')) : a.alert w' = a.alert w := by
  rw [h] at hasks
  exact a.asks hasks

theorem alert_scans {height : UInt64} {window : BlockWindow} {result : ScanResult}
    (h : Scans l b w height window result w') : a.alert w' = a.alert w :=
  (a.alert_of_eq (.scan _ _) h.scan_eq).trans (a.asks .currentHeight)

theorem alert_reload {result : Except ScanError Unit} (h : Reloads l b w calls result b' w') :
    b'.failures = b.failures ∧ a.alert w' = a.alert w := by
  cases h with
  | noCursor hcursor => exact ⟨rfl, a.alert_of_eq .loadCursor hcursor⟩
  | noState hcursor hstate =>
    exact ⟨rfl, (a.alert_of_eq .loadState hstate).trans (a.alert_of_eq .loadCursor hcursor)⟩
  | notHydrated hcursor hstate hhydrate | reloaded hcursor hstate hhydrate =>
    have hread := (a.alert_of_eq .loadState hstate).trans (a.alert_of_eq .loadCursor hcursor)
    exact ⟨rfl, (a.alert_of_eq (.hydrate _) hhydrate).trans hread⟩

/-- A step counts nothing, and only its commit takes the alert back. -/
theorem alert_step {outcome : Except ScanError StepOutcome}
    (h : Steps l b w calls outcome b' w') :
    (∃ window, outcome = .ok (.committed window)) ∧ b'.failures = 0 ∧ a.alert w' = some 0.0 ∨
      (∀ window, outcome ≠ .ok (.committed window)) ∧ b'.failures = b.failures ∧
        a.alert w' = a.alert w := by
  cases h with
  | noHeight hheight | upToDate hheight =>
    exact .inr ⟨by simp, rfl, a.alert_of_eq .currentHeight hheight⟩
  | scanFailed hscan | cancelled hscan | aborted hscan =>
    exact .inr ⟨by simp, rfl, a.alert_scans hscan⟩
  | commitFailed hscan hcommit =>
    exact .inr ⟨by simp, rfl, (a.alert_of_eq (.commit _ _) hcommit).trans (a.alert_scans hscan)⟩
  | committed => exact .inl ⟨⟨_, rfl⟩, rfl, a.alert_committedGauges _ _ _⟩
  | alreadyApplied hscan hcommit hreload | notReloaded hscan hcommit hreload =>
    obtain ⟨hfailures, halert⟩ := a.alert_reload hreload
    refine .inr ⟨by simp, hfailures, ?_⟩
    exact (halert.trans (a.alert_of_eq (.commit _ _) hcommit)).trans (a.alert_scans hscan)

theorem counts_pass (b : BlockScanner) (w : ω) :
    Counts l b.failures (a.alert w) (pass l b w).1 (pass l b w).2.1.failures
      (a.alert (pass l b w).2.2) := by
  obtain ⟨calls, hsteps⟩ := steps_step l b w
  have hstep := a.alert_step hsteps
  cases hresult : step l b w with
  | mk outcome rest =>
  obtain ⟨b', w'⟩ := rest
  rw [hresult] at hstep
  dsimp only at hstep
  cases outcome with
  | ok outcome =>
    obtain ⟨houtcome, hafter⟩ := pass_of_ok hresult
    rw [hafter]
    obtain ⟨⟨window, hwindow⟩, hfailures, halert⟩ | ⟨hopen, hfailures, halert⟩ := hstep
    · rw [hfailures, halert]
      exact .committed (by simp [Pass.commits, houtcome, hwindow])
    · have hnone : ¬ (pass l b w).1.commits := by
        rw [Pass.commits_iff, houtcome]
        rintro ⟨window, hwindow⟩
        exact hopen window hwindow
      rw [hfailures, halert]
      exact .quiet hnone (by simp [Pass.backsOff, houtcome])
  | error e =>
    obtain ⟨⟨window, hwindow⟩, -⟩ | ⟨-, hfailures, halert⟩ := hstep
    · cases hwindow
    rw [pass_of_error hresult]
    by_cases hrecovery : e.recovery l.target.kind = .shrinkRange
    · rw [onError_atOnce hrecovery]
      dsimp only
      rw [hfailures, halert]
      exact .quiet (by simp [Pass.commits]) (by simp [Pass.backsOff, hrecovery])
    · rw [onError_backoff hrecovery]
      dsimp only
      rw [hfailures, a.alert_publish]
      exact .failed (by simp [Pass.commits]) (by simp [Pass.backsOff, hrecovery]) rfl

/-- The passes of a scanner since it was started, oldest first, and where they have led. The alert
was not raised before the start. Between two passes the world may change in any way, but for the
alert. -/
inductive Run : List Pass → BlockScanner → ω → Prop
  | start {w₀ w : ω} {b : BlockScanner} (hclear : a.alert w₀ = none ∨ a.alert w₀ = some 0.0)
      (hnew : new l w₀ = (.ok b, w)) : Run [] b w
  | pass {passes : List Pass} {b : BlockScanner} {w : ω} (before : Run passes b w) :
      Run (passes ++ [(pass l b w).1]) (pass l b w).2.1 (pass l b w).2.2
  | drift {passes : List Pass} {b : BlockScanner} {w w' : ω} (before : Run passes b w)
      (hkept : a.alert w' = a.alert w) : Run passes b w'

def pauseAfter (l : ScanLoop ω) (failures : Nat) : Nat :=
  min (l.config.baseBackoff * 2 ^ min failures 31) l.config.maxBackoff

theorem pauseAfter_le_pauseAfter {m n : Nat} (h : m ≤ n) : pauseAfter l m ≤ pauseAfter l n := by
  unfold pauseAfter
  gcongr
  exact one_le_two

/-- Number of failures, alert and pauses, as the failures since the last commit determine them. -/
structure Tracks (failures : List Pass) (b : BlockScanner) (w : ω) : Prop where
  failures_eq : b.failures.toNat = min failures.length (2 ^ 32 - 1)
  raised : 0 < failures.length → a.alert w = some 1.0
  clear : failures.length = 0 → a.alert w = none ∨ a.alert w = some 0.0
  pauses : failures.map (·.pause) = (List.range failures.length).map (pauseAfter l)

theorem backoffDelay_of_tracks {failures : List Pass} (h : a.Tracks failures b w) :
    Scan.backoffDelay l.config.baseBackoff l.config.maxBackoff b.failures
      = pauseAfter l failures.length := by
  have hexponent : min b.failures.toNat 31 = min failures.length 31 := by
    rw [h.failures_eq]
    omega
  rw [Scan.backoffDelay_eq, pauseAfter, hexponent]

theorem tracks_start {w₀ : ω} (hclear : a.alert w₀ = none ∨ a.alert w₀ = some 0.0)
    (hnew : new l w₀ = (.ok b, w)) : a.Tracks [] b w := by
  obtain ⟨calls, hreload⟩ := reloads_reload l
    ⟨l.target.initialCursor, .empty l.target.chain, fullRange l, 0, .idle⟩ w₀
  obtain ⟨hfailures, halert⟩ := a.alert_reload hreload
  unfold new at hnew
  dsimp only at hnew hfailures
  generalize reload l _ w₀ = r at hnew hfailures halert
  obtain ⟨e | _, b', w'⟩ := r
  · cases hnew
  · cases hnew
    dsimp only at hfailures halert
    refine ⟨by simp [hfailures], by simp, fun _ => ?_, rfl⟩
    rw [halert]
    exact hclear

/-- A pass keeps track of the failures. -/
theorem tracks_pass {passes : List Pass}
    (h : a.Tracks (recentFailures l.target.kind passes) b w) :
    a.Tracks (recentFailures l.target.kind (passes ++ [(pass l b w).1])) (pass l b w).2.1
      (pass l b w).2.2 := by
  have hcounts := a.counts_pass b w
  generalize hfailures : (pass l b w).2.1.failures = failures at hcounts
  generalize halert : a.alert (pass l b w).2.2 = alert at hcounts
  cases hcounts with
  | committed hcommits =>
    rw [recentFailures_of_commits hcommits]
    exact ⟨by simp [hfailures], by simp, fun _ => .inr halert, rfl⟩
  | failed hopen hbacksOff hpause =>
    rw [recentFailures_of_backsOff hopen hbacksOff]
    refine ⟨?_, fun _ => halert, by simp, ?_⟩
    · rw [hfailures, toNat_moreFailures, h.failures_eq, List.length_append, List.length_singleton]
      omega
    · rw [List.map_append, h.pauses, List.length_append, List.length_singleton, List.range_succ,
        List.map_append, List.map_singleton, List.map_singleton, hpause,
        a.backoffDelay_of_tracks h]
  | quiet hopen hquiet =>
    rw [recentFailures_of_quiet hopen hquiet]
    refine ⟨by rw [hfailures, h.failures_eq], ?_, ?_, h.pauses⟩
    · rw [halert]
      exact h.raised
    · rw [halert]
      exact h.clear

namespace Run

variable {a} {passes : List Pass}

theorem tracks (h : a.Run passes b w) : a.Tracks (recentFailures l.target.kind passes) b w := by
  induction h with
  | start hclear hnew => exact a.tracks_start hclear hnew
  | pass before ih => exact a.tracks_pass ih
  | drift before hkept ih =>
    exact ⟨ih.failures_eq, by rw [hkept]; exact ih.raised, by rw [hkept]; exact ih.clear, ih.pauses⟩

/-- However steps end, the number of failures is that since the last commit, as far as a word holds
it, and the alert is raised just when there are any. The pause behind the next failure is doubled
for each of them, up to the greatest pause: the power is a word, and a product that stops at any
length which the greatest pause does not pass makes no difference. The pauses between two commits
never get shorter. A window that is to be narrowed and a step without a commit or an error leave
number and alert as they are. -/
theorem failures_tracked {f : Nat} (h : a.Run passes b w)
    (hf : (recentFailures l.target.kind passes).length = f) :
    b.failures.toNat = min f (2 ^ 32 - 1) ∧
    (0 < f → a.alert w = some 1.0) ∧
    (f = 0 → a.alert w = none ∨ a.alert w = some 0.0) ∧
    (∀ e, (BlockScanner.pass l b w).1.outcome = .error e →
      e.recovery l.target.kind ≠ .shrinkRange →
        (BlockScanner.pass l b w).1.pause
          = min (l.config.baseBackoff * 2 ^ min f 31) l.config.maxBackoff) ∧
    (2 ^ min f 31 < UInt32.size ∧
      ∀ longest, l.config.maxBackoff ≤ longest →
        min (min (l.config.baseBackoff * 2 ^ min f 31) longest) l.config.maxBackoff
          = min (l.config.baseBackoff * 2 ^ min f 31) l.config.maxBackoff) ∧
    ((recentFailures l.target.kind passes).map (·.pause)).Pairwise (· ≤ ·) ∧
    (∀ p ∈ recentFailures l.target.kind passes, p.pause ≤ l.config.maxBackoff) ∧
    ((∃ e, (BlockScanner.pass l b w).1.outcome = .error e ∧
          e.recovery l.target.kind = .shrinkRange) ∨
        (BlockScanner.pass l b w).1.outcome = .ok .upToDate ∨
        (BlockScanner.pass l b w).1.outcome = .ok .cancelled ∨
        (∃ window, (BlockScanner.pass l b w).1.outcome = .ok (.alreadyApplied window)) →
      (BlockScanner.pass l b w).2.1.failures = b.failures ∧
        a.alert (BlockScanner.pass l b w).2.2 = a.alert w) := by
  have htracks := h.tracks
  have hcounts := a.counts_pass b w
  subst hf
  refine ⟨htracks.failures_eq, htracks.raised, htracks.clear, ?_, ⟨?_, ?_⟩, ?_, ?_, ?_⟩
  · intro e houtcome hrecovery
    rw [hcounts.pause_eq houtcome hrecovery, a.backoffDelay_of_tracks htracks, pauseAfter]
  · have hexponent : min (recentFailures l.target.kind passes).length 31 < 32 := by omega
    exact Nat.pow_lt_pow_right Nat.one_lt_two hexponent
  · intro longest hlongest
    rw [min_assoc, min_eq_right hlongest]
  · rw [htracks.pauses, List.pairwise_map]
    exact List.pairwise_lt_range.imp fun hlt => pauseAfter_le_pauseAfter hlt.le
  · intro p hp
    have hmem : p.pause ∈ (recentFailures l.target.kind passes).map (·.pause) :=
      List.mem_map_of_mem hp
    rw [htracks.pauses] at hmem
    obtain ⟨n, -, hn⟩ := List.mem_map.1 hmem
    rw [← hn]
    exact min_le_right _ _
  · rintro (⟨e, he, hrecovery⟩ | he | he | ⟨window, he⟩)
    · have hquiet : ¬ (BlockScanner.pass l b w).1.backsOff l.target.kind := by
        simp [Pass.backsOff, he, hrecovery]
      exact hcounts.eq_of_quiet (by simp [Pass.commits, he]) hquiet
    all_goals exact hcounts.eq_of_quiet (by simp [Pass.commits, he]) (by simp [Pass.backsOff, he])

end Run
end AlertGauge

/-- A chain that cannot be read: the errors it answers, and the gauges. -/
structure Outage where
  errors : List ScanError
  publisher : Publisher

namespace Outage

def height (w : Outage) : Except ScanError UInt64 × Outage :=
  match w.errors with
  | [] => (.ok 5, w)
  | e :: rest => (.error e, { w with errors := rest })

theorem publisher_height (w : Outage) : (height w).2.publisher = w.publisher := by
  unfold height
  split <;> rfl

/-- A loop over the chain. Its pauses are between a second and a minute. -/
def loop : ScanLoop Outage where
  target := {
    id := .events
    chain := .parachain
    kind := .ranged
    initialCursor := 0
    throttle := none
    currentHeight := height
    hydrate := pure
    scan := fun _ _ w => (.cancelled, w)
    gauges := fun _ _ => [] }
  store := MemoryStore.store.onPart (fun _ => .empty) fun _ w => w
  publish g w := { w with publisher := w.publisher.set g }
  now _ := 0
  config := ⟨10, 1000, 1000, 60000⟩

def registry : GaugeRegistry loop where
  publisher := (·.publisher)
  publish _ _ := rfl
  asks := by
    intro w w' h
    cases h with
    | currentHeight =>
      change Publisher.AgreeOutside _ (height w).2.publisher _
      rw [publisher_height]
      exact .refl _
    | scan | hydrate | loadCursor | loadState | commit => exact .refl _

/-- A node that is down, a window with too many results, and a node that is too slow. -/
def answers : List ScanError :=
  [.chain (.unavailable .parachain 3 "refused" false),
    .chain (.rangeTooLarge .parachain "too many results"),
    .chain (.unavailable .parachain 3 "timed out" true)]

end Outage

open Outage in
/-- Two failures, with a window in between that is only narrowed. -/
theorem AlertGauge.Run.failures_tracked_outage :
    ∃ passes b w, registry.alertGauge.Run passes b w ∧ passes.map (·.pause) = [1000, 0, 2000] ∧
      (BlockScanner.recentFailures .ranged passes).length = 2 ∧
      b.failures.toNat = 2 ∧ registry.alertGauge.alert w = some 1.0 := by
  have hclear : registry.alertGauge.alert ⟨answers, .new ""⟩ = none ∨
      registry.alertGauge.alert ⟨answers, .new ""⟩ = some 0.0 := .inl rfl
  have hstart : registry.alertGauge.Run [] _ _ := .start hclear rfl
  have hrun := hstart.pass.pass.pass
  obtain ⟨hfailures, hraised, -⟩ := hrun.failures_tracked (f := 2) (by decide)
  exact ⟨_, _, _, hrun, by decide, by decide, hfailures, hraised (by decide)⟩

end StakingIndexer
