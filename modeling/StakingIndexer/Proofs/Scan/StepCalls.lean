import Mathlib
import StakingIndexer.Proofs.Reader.Answers
import StakingIndexer.Scan.Scanner

/-!
# The calls of a step

A loop whose calls to target, store and registry are written down does what it does without that.
What a step does is said once, with one case for each of its ends: the calls in their order, each
with its answer, the outcome, and the scanner behind it.
-/

namespace StakingIndexer

/-- A call of a loop, and its answer. -/
inductive LoopCall where
  | height (answer : Except ScanError UInt64)
  | scan (window : BlockWindow) (state : AggregateState) (result : ScanResult)
  | commit (cursor : ScanCursor) (delta : AggregateDelta)
    (answer : Except StoreError CommitOutcome)
  | loadCursor (chain : Chain) (target : TargetId)
    (answer : Except StoreError (Option ScanCursor))
  | loadState (chain : Chain) (answer : Except StoreError (Option AggregateState))
  | recentRewards (limit : Nat) (answer : Except StoreError (List RewardRow))
  | hydrate (given : AggregateState) (answer : Except ScanError AggregateState)
  | publish (gauge : Gauge)

namespace LoopCall

def commit? : LoopCall → Option (ScanCursor × AggregateDelta × Except StoreError CommitOutcome)
  | commit cursor delta answer => some (cursor, delta, answer)
  | _ => none

def gauge? : LoopCall → Option Gauge
  | publish gauge => some gauge
  | _ => none

def commits (calls : List LoopCall) :
    List (ScanCursor × AggregateDelta × Except StoreError CommitOutcome) :=
  calls.filterMap commit?

def published (calls : List LoopCall) : List Gauge := calls.filterMap gauge?

end LoopCall

variable {ω : Type}

def ScanTarget.recording (t : ScanTarget ω) : ScanTarget (ω × List LoopCall) where
  id := t.id
  chain := t.chain
  kind := t.kind
  initialCursor := t.initialCursor
  throttle := t.throttle
  currentHeight := t.currentHeight.recording .height
  hydrate state := (t.hydrate state).recording (.hydrate state)
  scan window state w :=
    let r := t.scan window state w.1
    (r.1, r.2, w.2 ++ [.scan window state r.1])
  gauges := t.gauges

def CheckpointStore.recording (s : CheckpointStore ω) : CheckpointStore (ω × List LoopCall) where
  loadCursor chain target := (s.loadCursor chain target).recording (.loadCursor chain target)
  loadState chain := (s.loadState chain).recording (.loadState chain)
  commit cursor delta := (s.commit cursor delta).recording (.commit cursor delta)
  recentRewards limit := (s.recentRewards limit).recording (.recentRewards limit)

/-- A loop that writes down its calls. -/
def ScanLoop.recording (l : ScanLoop ω) : ScanLoop (ω × List LoopCall) where
  target := l.target.recording
  store := l.store.recording
  publish g w := (l.publish g w.1, w.2 ++ [.publish g])
  now w := l.now w.1
  config := l.config

namespace BlockScanner

/-- The scanner at a cursor that was read, if there was one. -/
def takeOver (stored : Option ScanCursor) (b : BlockScanner) : BlockScanner :=
  { b with cursor := (stored.map (·.block)).getD b.cursor }

def committedGauges (l : ScanLoop ω) (window : BlockWindow) (out : ScanOutput) : List Gauge :=
  out.gauges ++ l.target.gauges out.state window ++ [.plain (alertName l) 0.0]

def cursorBehind (l : ScanLoop ω) (window : BlockWindow) (w : ω) : ScanCursor :=
  ⟨l.target.chain, l.target.id, window.last, l.now w⟩

variable (l : ScanLoop ω) (b : BlockScanner) (w : ω)

/-- What a reload does: its calls, its result, and scanner and world behind it. -/
inductive Reloads : List LoopCall → Except ScanError Unit → BlockScanner → ω → Prop
  | noCursor {e : StoreError} {w₁ : ω}
      (hcursor : l.store.loadCursor l.target.chain l.target.id w = (.error e, w₁)) :
      Reloads [.loadCursor l.target.chain l.target.id (.error e)] (.error (.store e)) b w₁
  | noState {stored : Option ScanCursor} {e : StoreError} {w₁ w₂ : ω}
      (hcursor : l.store.loadCursor l.target.chain l.target.id w = (.ok stored, w₁))
      (hstate : l.store.loadState l.target.chain w₁ = (.error e, w₂)) :
      Reloads [.loadCursor l.target.chain l.target.id (.ok stored),
        .loadState l.target.chain (.error e)] (.error (.store e)) (b.takeOver stored) w₂
  | notHydrated {stored : Option ScanCursor} {given : Option AggregateState} {e : ScanError}
      {w₁ w₂ w₃ : ω}
      (hcursor : l.store.loadCursor l.target.chain l.target.id w = (.ok stored, w₁))
      (hstate : l.store.loadState l.target.chain w₁ = (.ok given, w₂))
      (hhydrate : l.target.hydrate (given.getD (.empty l.target.chain)) w₂ = (.error e, w₃)) :
      Reloads [.loadCursor l.target.chain l.target.id (.ok stored),
        .loadState l.target.chain (.ok given),
        .hydrate (given.getD (.empty l.target.chain)) (.error e)] (.error e) (b.takeOver stored) w₃
  | reloaded {stored : Option ScanCursor} {given : Option AggregateState}
      {state : AggregateState} {w₁ w₂ w₃ : ω}
      (hcursor : l.store.loadCursor l.target.chain l.target.id w = (.ok stored, w₁))
      (hstate : l.store.loadState l.target.chain w₁ = (.ok given, w₂))
      (hhydrate : l.target.hydrate (given.getD (.empty l.target.chain)) w₂ = (.ok state, w₃)) :
      Reloads [.loadCursor l.target.chain l.target.id (.ok stored),
        .loadState l.target.chain (.ok given),
        .hydrate (given.getD (.empty l.target.chain)) (.ok state)] (.ok ())
        { b.takeOver stored with state } w₃

/-- A step hands a window over to be scanned, and this comes of it. -/
structure Scans (height : UInt64) (window : BlockWindow) (result : ScanResult) (w' : ω) :
    Prop where
  height_eq : (l.target.currentHeight w).1 = .ok height
  window_eq : Scan.nextWindow l.target.kind b.cursor height b.range = some window
  scan_eq : l.target.scan window b.state (l.target.currentHeight w).2 = (result, w')

/-- What a step does: its calls, its outcome, and scanner and world behind it. -/
inductive Steps : List LoopCall → Except ScanError StepOutcome → BlockScanner → ω → Prop
  | noHeight {e : ScanError} {w₁ : ω} (hheight : l.target.currentHeight w = (.error e, w₁)) :
      Steps [.height (.error e)] (.error e) { b with phase := .idle } w₁
  | upToDate {height : UInt64} {w₁ : ω}
      (hheight : l.target.currentHeight w = (.ok height, w₁))
      (hwindow : Scan.nextWindow l.target.kind b.cursor height b.range = none) :
      Steps [.height (.ok height)] (.ok .upToDate) { b with phase := .idle } w₁
  | scanFailed {height : UInt64} {window : BlockWindow} {e : ScanError} {w₁ : ω}
      (hscan : Scans l b w height window (.failed e) w₁) :
      Steps [.height (.ok height), .scan window b.state (.failed e)] (.error e)
        { b with phase := .scanning window } w₁
  | cancelled {height : UInt64} {window : BlockWindow} {w₁ : ω}
      (hscan : Scans l b w height window .cancelled w₁) :
      Steps [.height (.ok height), .scan window b.state .cancelled] (.ok .cancelled)
        { b with phase := .scanning window } w₁
  | aborted {height : UInt64} {window : BlockWindow} {w₁ : ω}
      (hscan : Scans l b w height window .aborted w₁) :
      Steps [.height (.ok height), .scan window b.state .aborted] (.ok .aborted)
        { b with phase := .scanning window } w₁
  | commitFailed {height : UInt64} {window : BlockWindow} {out : ScanOutput} {e : StoreError}
      {w₁ w₂ : ω} (hscan : Scans l b w height window (.output out) w₁)
      (hcommit : l.store.commit (cursorBehind l window w₁) out.delta w₁ = (.error e, w₂)) :
      Steps [.height (.ok height), .scan window b.state (.output out),
        .commit (cursorBehind l window w₁) out.delta (.error e)] (.error (.store e))
        { b with phase := .committing window } w₂
  | committed {height : UInt64} {window : BlockWindow} {out : ScanOutput} {w₁ w₂ : ω}
      (hscan : Scans l b w height window (.output out) w₁)
      (hcommit : l.store.commit (cursorBehind l window w₁) out.delta w₁ = (.ok .applied, w₂)) :
      Steps ([.height (.ok height), .scan window b.state (.output out),
        .commit (cursorBehind l window w₁) out.delta (.ok .applied)]
          ++ (committedGauges l window out).map .publish)
        (.ok (.committed window)) ⟨window.last, out.state, fullRange l, 0, .committing window⟩
        (publishAll l (committedGauges l window out) w₂)
  | alreadyApplied {height : UInt64} {window : BlockWindow} {out : ScanOutput} {w₁ w₂ w₃ : ω}
      {calls : List LoopCall} {b' : BlockScanner}
      (hscan : Scans l b w height window (.output out) w₁)
      (hcommit : l.store.commit (cursorBehind l window w₁) out.delta w₁
        = (.ok .alreadyApplied, w₂))
      (hreload : Reloads l { b with phase := .committing window } w₂ calls (.ok ()) b' w₃) :
      Steps ([.height (.ok height), .scan window b.state (.output out),
        .commit (cursorBehind l window w₁) out.delta (.ok .alreadyApplied)] ++ calls)
        (.ok (.alreadyApplied window)) b' w₃
  | notReloaded {height : UInt64} {window : BlockWindow} {out : ScanOutput} {e : ScanError}
      {w₁ w₂ w₃ : ω} {calls : List LoopCall} {b' : BlockScanner}
      (hscan : Scans l b w height window (.output out) w₁)
      (hcommit : l.store.commit (cursorBehind l window w₁) out.delta w₁
        = (.ok .alreadyApplied, w₂))
      (hreload : Reloads l { b with phase := .committing window } w₂ calls (.error e) b' w₃) :
      Steps ([.height (.ok height), .scan window b.state (.output out),
        .commit (cursorBehind l window w₁) out.delta (.ok .alreadyApplied)] ++ calls)
        (.error e) b' w₃

variable {l b w}

theorem loadState_eq (l : ScanLoop ω) (w : ω) :
    loadState l w = match l.store.loadState l.target.chain w with
      | (.ok given, w₁) => l.target.hydrate (given.getD (.empty l.target.chain)) w₁
      | (.error e, w₁) => (.error (.store e), w₁) := by
  unfold loadState
  rw [Action.bind_eq, Action.mapError]
  rcases l.store.loadState l.target.chain w with ⟨e | given, w₁⟩ <;> rfl

theorem reload_eq_takeOver {stored : Option ScanCursor} {w₁ : ω}
    (hcursor : l.store.loadCursor l.target.chain l.target.id w = (.ok stored, w₁)) :
    reload l b w = match loadState l w₁ with
      | (.ok state, w₂) => (.ok (), { b.takeOver stored with state }, w₂)
      | (.error e, w₂) => (.error e, b.takeOver stored, w₂) := by
  unfold reload
  rw [hcursor]
  dsimp only
  rcases loadState l w₁ with ⟨e | state, w₂⟩ <;> cases stored <;> rfl

theorem reloads_reload (l : ScanLoop ω) (b : BlockScanner) (w : ω) :
    ∃ calls, Reloads l b w calls (reload l b w).1 (reload l b w).2.1 (reload l b w).2.2 := by
  cases hcursor : l.store.loadCursor l.target.chain l.target.id w with
  | mk answer w₁ =>
  cases answer with
  | error e =>
    rw [reload, hcursor]
    exact ⟨_, .noCursor hcursor⟩
  | ok stored =>
    rw [reload_eq_takeOver hcursor, loadState_eq]
    cases hstate : l.store.loadState l.target.chain w₁ with
    | mk answer w₂ =>
    cases answer with
    | error e => exact ⟨_, .noState hcursor hstate⟩
    | ok given =>
      dsimp only
      cases hhydrate : l.target.hydrate (given.getD (.empty l.target.chain)) w₂ with
      | mk answer w₃ =>
      cases answer with
      | error e => exact ⟨_, .notHydrated hcursor hstate hhydrate⟩
      | ok state => exact ⟨_, .reloaded hcursor hstate hhydrate⟩

section Commit

variable {window : BlockWindow} {out : ScanOutput} {w' : ω}

theorem commit_failed {e : StoreError}
    (h : l.store.commit (cursorBehind l window w) out.delta w = (.error e, w')) :
    commit l window out b w = (.error (.store e), { b with phase := .committing window }, w') := by
  rw [cursorBehind] at h
  unfold commit
  dsimp only
  rw [h]

theorem commit_applied
    (h : l.store.commit (cursorBehind l window w) out.delta w = (.ok .applied, w')) :
    commit l window out b w = (.ok (.committed window),
      ⟨window.last, out.state, fullRange l, 0, .committing window⟩,
      publishAll l (committedGauges l window out) w') := by
  rw [cursorBehind] at h
  unfold commit
  dsimp only
  rw [h]
  rfl

theorem commit_alreadyApplied
    (h : l.store.commit (cursorBehind l window w) out.delta w = (.ok .alreadyApplied, w')) :
    commit l window out b w =
      ((reload l { b with phase := .committing window } w').1.map fun _ => .alreadyApplied window,
        (reload l { b with phase := .committing window } w').2.1,
        (reload l { b with phase := .committing window } w').2.2) := by
  rw [cursorBehind] at h
  unfold commit
  dsimp only
  rw [h]
  dsimp only
  rcases reload l { b with phase := .committing window } w' with ⟨e | _, b', w''⟩ <;> rfl

end Commit

theorem step_upToDate {height : UInt64} {w₁ : ω}
    (hheight : l.target.currentHeight w = (.ok height, w₁))
    (hwindow : Scan.nextWindow l.target.kind b.cursor height b.range = none) :
    step l b w = (.ok .upToDate, { b with phase := .idle }, w₁) := by
  unfold step
  rw [hheight]
  dsimp only
  rw [hwindow]

theorem Scans.step_eq {height : UInt64} {window : BlockWindow} {result : ScanResult} {w' : ω} :
    Scans l b w height window result w' → step l b w = match result with
      | .failed e => (.error e, { b with phase := .scanning window }, w')
      | .cancelled => (.ok .cancelled, { b with phase := .scanning window }, w')
      | .aborted => (.ok .aborted, { b with phase := .scanning window }, w')
      | .output out => commit l window out { b with phase := .scanning window } w' := by
  rintro ⟨hheight, hwindow, hscan⟩
  unfold step
  generalize l.target.currentHeight w = r at hheight hscan ⊢
  obtain ⟨answer, w₁⟩ := r
  obtain rfl : answer = .ok height := hheight
  dsimp only
  rw [hwindow]
  dsimp only at hscan ⊢
  rw [hscan]
  cases result <;> rfl

/-- Whatever target and store answer, a step is one of these. -/
theorem steps_step (l : ScanLoop ω) (b : BlockScanner) (w : ω) :
    ∃ calls, Steps l b w calls (step l b w).1 (step l b w).2.1 (step l b w).2.2 := by
  cases hheight : l.target.currentHeight w with
  | mk answer w₁ =>
  cases answer with
  | error e =>
    rw [step, hheight]
    exact ⟨_, .noHeight hheight⟩
  | ok height =>
    cases hwindow : Scan.nextWindow l.target.kind b.cursor height b.range with
    | none =>
      rw [step_upToDate hheight hwindow]
      exact ⟨_, .upToDate hheight hwindow⟩
    | some window =>
      cases hresult : l.target.scan window b.state w₁ with
      | mk result w₂ =>
      have hscan : Scans l b w height window result w₂ :=
        ⟨congrArg Prod.fst hheight, hwindow, by rw [hheight]; exact hresult⟩
      rw [hscan.step_eq]
      cases result with
      | failed e => exact ⟨_, .scanFailed hscan⟩
      | cancelled => exact ⟨_, .cancelled hscan⟩
      | aborted => exact ⟨_, .aborted hscan⟩
      | output out =>
        cases hcommit : l.store.commit (cursorBehind l window w₂) out.delta w₂ with
        | mk answer w₃ =>
        obtain e | _ | _ := answer
        · dsimp only
          rw [commit_failed hcommit]
          exact ⟨_, .commitFailed hscan hcommit⟩
        · dsimp only
          rw [commit_applied hcommit]
          exact ⟨_, .committed hscan hcommit⟩
        · dsimp only
          rw [commit_alreadyApplied hcommit]
          obtain ⟨calls, hreload⟩ := reloads_reload l { b with phase := .committing window } w₃
          generalize reload l { b with phase := .committing window } w₃ = r at hreload ⊢
          obtain ⟨e | _, b', w₄⟩ := r
          · exact ⟨_, .notReloaded hscan hcommit hreload⟩
          · exact ⟨_, .alreadyApplied hscan hcommit hreload⟩

section Recording

variable {b' : BlockScanner} {w' : ω} {calls : List LoopCall}

theorem recording_eq {σ ε α β : Type} {a : Action σ ε α} {record : Except ε α → β} {s t : σ}
    {r : Except ε α} (h : a s = (r, t)) (journal : List β) :
    a.recording record (s, journal) = (r, t, journal ++ [record r]) := by
  rw [Action.recording, h]

theorem publishAll_recording (gauges : List Gauge) (w : ω) (journal : List LoopCall) :
    publishAll l.recording gauges (w, journal)
      = (publishAll l gauges w, journal ++ gauges.map .publish) := by
  unfold publishAll
  induction gauges generalizing w journal with
  | nil => rw [List.map_nil, List.append_nil]; rfl
  | cons g gauges ih =>
    rw [List.foldl_cons, List.foldl_cons, List.map_cons, List.append_cons]
    exact ih (l.publish g w) (journal ++ [.publish g])

theorem loadState_recording_error {e : StoreError}
    (hstate : l.store.loadState l.target.chain w = (.error e, w')) (journal : List LoopCall) :
    loadState l.recording (w, journal)
      = (.error (.store e), w', journal ++ [.loadState l.target.chain (.error e)]) := by
  have hload : l.recording.store.loadState l.recording.target.chain (w, journal) = _ :=
    recording_eq hstate journal
  rw [loadState_eq, hload]
  rfl

theorem loadState_recording {given : Option AggregateState}
    {answer : Except ScanError AggregateState} {w₁ : ω}
    (hstate : l.store.loadState l.target.chain w = (.ok given, w₁))
    (hhydrate : l.target.hydrate (given.getD (.empty l.target.chain)) w₁ = (answer, w'))
    (journal : List LoopCall) :
    loadState l.recording (w, journal)
      = (answer, w', journal ++ [.loadState l.target.chain (.ok given),
        .hydrate (given.getD (.empty l.target.chain)) answer]) := by
  have hload : l.recording.store.loadState l.recording.target.chain (w, journal) = _ :=
    recording_eq hstate journal
  rw [loadState_eq, hload]
  refine (recording_eq hhydrate _).trans ?_
  rw [List.append_assoc]
  rfl

theorem Reloads.recording {result : Except ScanError Unit} (h : Reloads l b w calls result b' w')
    (journal : List LoopCall) :
    reload l.recording b (w, journal) = (result, b', w', journal ++ calls) := by
  cases h with
  | noCursor hcursor =>
    have hload : l.recording.store.loadCursor l.recording.target.chain l.recording.target.id
        (w, journal) = _ := recording_eq hcursor journal
    rw [reload, hload]
    rfl
  | noState hcursor hstate =>
    rw [reload_eq_takeOver (recording_eq hcursor journal), loadState_recording_error hstate,
      List.append_assoc]
    rfl
  | notHydrated hcursor hstate hhydrate =>
    rw [reload_eq_takeOver (recording_eq hcursor journal), loadState_recording hstate hhydrate,
      List.append_assoc]
    rfl
  | reloaded hcursor hstate hhydrate =>
    rw [reload_eq_takeOver (recording_eq hcursor journal), loadState_recording hstate hhydrate,
      List.append_assoc]
    rfl

theorem Scans.recording {height : UInt64} {window : BlockWindow} {result : ScanResult}
    (h : Scans l b w height window result w') (journal : List LoopCall) :
    Scans l.recording b (w, journal) height window result
      (w', journal ++ [.height (.ok height), .scan window b.state result]) where
  height_eq := h.height_eq
  window_eq := h.window_eq
  scan_eq := by
    change (let r := l.target.scan window b.state (l.target.currentHeight w).2
      (r.1, r.2, (journal ++ [LoopCall.height (l.target.currentHeight w).1])
        ++ [LoopCall.scan window b.state r.1])) = _
    rw [h.height_eq, h.scan_eq]
    dsimp only
    rw [List.append_assoc]
    rfl

theorem storeCommit_recording {window : BlockWindow} {delta : AggregateDelta}
    {answer : Except StoreError CommitOutcome}
    (hcommit : l.store.commit (cursorBehind l window w) delta w = (answer, w'))
    (journal : List LoopCall) :
    l.recording.store.commit (cursorBehind l.recording window (w, journal)) delta (w, journal)
      = (answer, w', journal ++ [.commit (cursorBehind l window w) delta answer]) :=
  recording_eq hcommit journal

/-- A step whose calls are written down does what it does without that. -/
theorem Steps.recording {outcome : Except ScanError StepOutcome}
    (h : Steps l b w calls outcome b' w') (journal : List LoopCall) :
    step l.recording b (w, journal) = (outcome, b', w', journal ++ calls) := by
  cases h with
  | noHeight hheight =>
    have hasked : l.recording.target.currentHeight (w, journal) = _ := recording_eq hheight journal
    rw [step, hasked]
  | upToDate hheight hwindow => exact step_upToDate (recording_eq hheight journal) hwindow
  | scanFailed hscan | cancelled hscan | aborted hscan => exact (hscan.recording journal).step_eq
  | commitFailed hscan hcommit =>
    rw [(hscan.recording journal).step_eq]
    dsimp only
    rw [commit_failed (storeCommit_recording hcommit _), List.append_assoc]
    rfl
  | committed hscan hcommit =>
    rw [(hscan.recording journal).step_eq]
    dsimp only
    rw [commit_applied (storeCommit_recording hcommit _), publishAll_recording, List.append_assoc,
      List.append_assoc]
    rfl
  | alreadyApplied hscan hcommit hreload | notReloaded hscan hcommit hreload =>
    rw [(hscan.recording journal).step_eq]
    dsimp only
    rw [commit_alreadyApplied (storeCommit_recording hcommit _), hreload.recording,
      List.append_assoc, List.append_assoc]
    rfl

end Recording

end BlockScanner
end StakingIndexer
