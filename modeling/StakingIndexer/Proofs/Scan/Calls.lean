import Mathlib
import StakingIndexer.Proofs.Scan.EventsWorld
import StakingIndexer.Proofs.Scan.StepCalls

/-!
# What a loop asks of its chain

In one pass a loop asks for the height, and hands over the window behind its cursor if there is
one. What it does about an error asks nothing.
-/

namespace StakingIndexer

/-- A call of a loop to its chain: the height that was answered, or the window that was handed over
to be scanned. -/
inductive ChainCall where
  | height (height : UInt64)
  | scan (window : BlockWindow)
deriving DecidableEq

namespace LoopCall

def chainCall? : LoopCall → Option ChainCall
  | height (.ok answer) => some (.height answer)
  | scan window _ _ => some (.scan window)
  | _ => none

theorem chainCalls_publish (gauges : List Gauge) :
    (gauges.map publish).filterMap chainCall? = [] := by
  rw [List.filterMap_map]
  exact List.filterMap_eq_nil_iff.2 fun _ _ => rfl

end LoopCall

namespace Scan

/-- Whether a window lies right behind a cursor, for a kind of windows, a height and a range. -/
def Follows (cursor height range : UInt64) (window : BlockWindow) : WindowKind → Prop
  | .ranged =>
    window.first.toNat = cursor.toNat + 1 ∧ cursor < window.last ∧ window.last ≤ height ∧
      window.last.toNat - cursor.toNat ≤ range.toNat
  | .snapshot => window = ⟨height, height⟩ ∧ cursor < height

variable {kind : WindowKind} {cursor height range : UInt64} {window : BlockWindow}

theorem follows_of_nextWindow (hrange : 1 ≤ range)
    (h : nextWindow kind cursor height range = some window) :
    Follows cursor height range window kind := by
  cases kind with
  | ranged =>
    obtain ⟨hlast, hwindow⟩ := nextWindow_ranged h
    refine ⟨?_, hlast, ?_, ?_⟩
    · rw [hwindow, Word.toNat_succ hlast]
    · unfold nextWindow at h
      split_ifs at h
      cases h
      exact Word.min_le_right _ _
    · unfold nextWindow at h
      split_ifs at h
      cases h
      rw [UInt64.le_iff_toNat_le, UInt64.toNat_one] at hrange
      rw [Word.toNat_min, Word.toNat_satAdd, Word.toNat_max, UInt64.toNat_one]
      omega
  | snapshot =>
    unfold nextWindow at h
    split_ifs at h with hheight
    cases h
    exact ⟨rfl, UInt64.not_le.1 hheight⟩

theorem Follows.lt_last (h : Follows cursor height range window kind) : cursor < window.last := by
  cases kind with
  | ranged => exact h.2.1
  | snapshot =>
    obtain ⟨rfl, hheight⟩ := h
    exact hheight

end Scan

namespace BlockScanner

variable {ω : Type} (l : ScanLoop ω) (b : BlockScanner) (w : ω)

def calls : List ChainCall := (pass l.recording b (w, [])).2.2.2.filterMap LoopCall.chainCall?

theorem onError_recording (e : ScanError) (journal : List LoopCall) :
    ∃ gauges : List Gauge, onError l.recording e b (w, journal)
      = ((onError l e b w).1, (onError l e b w).2.1, (onError l e b w).2.2,
        journal ++ gauges.map .publish) := by
  have hkind : l.recording.target.kind = l.target.kind := rfl
  unfold onError
  rw [hkind]
  cases e.recovery l.target.kind with
  | shrinkRange =>
    refine ⟨[], ?_⟩
    rw [List.map_nil, List.append_nil]
    rfl
  | backoff | shrinkRangeAndBackoff => exact ⟨[.plain (alertName l) 1.0], rfl⟩

/-- A pass whose calls are written down does what it does without that. -/
theorem pass_recording : ∃ calls, ∃ gauges : List Gauge,
    Steps l b w calls (step l b w).1 (step l b w).2.1 (step l b w).2.2 ∧
      pass l.recording b (w, []) = ((pass l b w).1, (pass l b w).2.1, (pass l b w).2.2,
        calls ++ gauges.map .publish) := by
  obtain ⟨calls, hsteps⟩ := steps_step l b w
  have hstep := hsteps.recording []
  unfold pass
  rw [hstep]
  generalize step l b w = r at hsteps ⊢
  obtain ⟨e | outcome, b', w'⟩ := r
  · obtain ⟨gauges, herror⟩ := onError_recording l b' w' e calls
    refine ⟨calls, gauges, hsteps, ?_⟩
    dsimp only [List.nil_append]
    rw [herror]
  · refine ⟨calls, [], hsteps, ?_⟩
    rw [List.map_nil, List.append_nil]
    rfl

/-- The calls of a step, as its height and its window determine them. -/
def asked : List ChainCall :=
  match (l.target.currentHeight w).1 with
  | .error _ => []
  | .ok height => .height height ::
      match Scan.nextWindow l.target.kind b.cursor height b.range with
      | none => []
      | some window => [.scan window]

variable {l b w}

theorem Scans.asked_eq {height : UInt64} {window : BlockWindow} {result : ScanResult} {w' : ω}
    (h : Scans l b w height window result w') : asked l b w = [.height height, .scan window] := by
  rw [asked, h.height_eq]
  dsimp only
  rw [h.window_eq]

theorem Reloads.chainCalls_eq {calls : List LoopCall} {result : Except ScanError Unit}
    {b' : BlockScanner} {w' : ω} (h : Reloads l b w calls result b' w') :
    calls.filterMap LoopCall.chainCall? = [] := by
  cases h <;> rfl

theorem Steps.chainCalls_eq {calls : List LoopCall} {outcome : Except ScanError StepOutcome}
    {b' : BlockScanner} {w' : ω} (h : Steps l b w calls outcome b' w') :
    calls.filterMap LoopCall.chainCall? = asked l b w := by
  cases h with
  | noHeight hheight =>
    rw [asked, hheight]
    rfl
  | upToDate hheight hwindow =>
    rw [asked, hheight]
    dsimp only
    rw [hwindow]
    rfl
  | scanFailed hscan | cancelled hscan | aborted hscan | commitFailed hscan =>
    rw [hscan.asked_eq]
    rfl
  | committed hscan =>
    rw [List.filterMap_append, LoopCall.chainCalls_publish, hscan.asked_eq]
    rfl
  | alreadyApplied hscan _ hreload | notReloaded hscan _ hreload =>
    rw [List.filterMap_append, hreload.chainCalls_eq, hscan.asked_eq]
    rfl

theorem calls_eq (l : ScanLoop ω) (b : BlockScanner) (w : ω) : calls l b w = asked l b w := by
  obtain ⟨calls, gauges, hsteps, hpass⟩ := pass_recording l b w
  rw [BlockScanner.calls, hpass, List.filterMap_append, LoopCall.chainCalls_publish,
    List.append_nil, hsteps.chainCalls_eq]

theorem calls_cases (hrange : 1 ≤ b.range) :
    calls l b w = [] ∨ (∃ height, calls l b w = [.height height]) ∨
      ∃ height window, calls l b w = [.height height, .scan window] ∧
        Scan.Follows b.cursor height b.range window l.target.kind := by
  rw [calls_eq]
  unfold asked
  rcases (l.target.currentHeight w).1 with e | height
  · exact .inl rfl
  · dsimp only
    cases hnext : Scan.nextWindow l.target.kind b.cursor height b.range with
    | none => exact .inr (.inl ⟨height, rfl⟩)
    | some window =>
      exact .inr (.inr ⟨height, window, rfl, Scan.follows_of_nextWindow hrange hnext⟩)

theorem follows_of_scan (hrange : 1 ≤ b.range) {window : BlockWindow}
    (h : .scan window ∈ calls l b w) :
    ∃ height, Scan.Follows b.cursor height b.range window l.target.kind := by
  obtain hcalls | ⟨height, hcalls⟩ | ⟨height, window', hcalls, hfollows⟩ :=
    calls_cases hrange
  · rw [hcalls] at h
    cases h
  · rw [hcalls] at h
    simp at h
  · obtain rfl : window = window' := by simpa [hcalls] using h
    exact ⟨height, hfollows⟩

end BlockScanner
end StakingIndexer
