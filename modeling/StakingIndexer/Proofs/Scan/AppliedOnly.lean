import Mathlib
import StakingIndexer.Proofs.Scan.GaugeRegistry
import StakingIndexer.Proofs.Scan.LocalWorld
import StakingIndexer.Proofs.Scan.StepCalls

/-!
# What an applied commit changes

A step moves its scanner and publishes gauges if its commit is applied, and then all of it: cursor,
state, range and number of failures are those of the window, and its gauges are published in their
order. Otherwise nothing is published, and the scanner stays as it is unless another writer was
ahead; then it takes over what is stored, and what was scanned is dropped. The pools set their own
gauges at any time, also in a step that fails.
-/

namespace StakingIndexer

variable {ω : Type}

namespace LoopCall

theorem commits_append (calls others : List LoopCall) :
    commits (calls ++ others) = commits calls ++ commits others := List.filterMap_append

theorem published_append (calls others : List LoopCall) :
    published (calls ++ others) = published calls ++ published others := List.filterMap_append

theorem published_map_publish (gauges : List Gauge) :
    published (gauges.map publish) = gauges := by
  rw [published, List.filterMap_map]
  exact List.filterMap_some

theorem mem_commits_of_mem {calls : List LoopCall} {cursor : ScanCursor} {delta : AggregateDelta}
    {answer : Except StoreError CommitOutcome} (h : .commit cursor delta answer ∈ calls) :
    (cursor, delta, answer) ∈ commits calls := List.mem_filterMap.2 ⟨_, h, rfl⟩

end LoopCall

namespace BlockScanner

open LoopCall

variable {l : ScanLoop ω} {b b' : BlockScanner} {w w' : ω} {calls : List LoopCall}
  {outcome : Except ScanError StepOutcome}

theorem Reloads.quiet {result : Except ScanError Unit} (h : Reloads l b w calls result b' w') :
    commits calls = [] ∧ published calls = [] := by
  cases h <;> exact ⟨rfl, rfl⟩

theorem Reloads.publisher_agrees {result : Except ScanError Unit}
    (h : Reloads l b w calls result b' w') (r : GaugeRegistry l) :
    (r.publisher w').AgreeOutside EndpointPool.healthKeys (r.publisher w) := by
  cases h with
  | noCursor hcursor => exact r.asked .loadCursor hcursor
  | noState hcursor hstate =>
    exact (r.asked .loadState hstate).trans (r.asked .loadCursor hcursor)
  | notHydrated hcursor hstate hhydrate | reloaded hcursor hstate hhydrate =>
    exact ((r.asked (.hydrate _) hhydrate).trans (r.asked .loadState hstate)).trans
      (r.asked .loadCursor hcursor)

theorem publisher_publishAll (r : GaugeRegistry l) (gauges : List Gauge) (w : ω) :
    r.publisher (publishAll l gauges w) = (r.publisher w).publishAll gauges := by
  unfold publishAll Publisher.publishAll
  induction gauges generalizing w with
  | nil => rfl
  | cons g gauges ih => rw [List.foldl_cons, List.foldl_cons, ih, r.publish]

theorem Scans.publisher_agrees {height : UInt64} {window : BlockWindow} {result : ScanResult}
    (h : Scans l b w height window result w') (r : GaugeRegistry l) :
    (r.publisher w').AgreeOutside EndpointPool.healthKeys (r.publisher w) :=
  (r.asked (.scan _ _) h.scan_eq).trans (r.asks .currentHeight)

/-- The gauges behind a step are those before it, but for what the step publishes and for those of
the pools. -/
theorem Steps.publisher_agrees (h : Steps l b w calls outcome b' w') (r : GaugeRegistry l) :
    (r.publisher w').AgreeOutside EndpointPool.healthKeys
      ((r.publisher w).publishAll (published calls)) := by
  cases h with
  | noHeight hheight | upToDate hheight => exact r.asked .currentHeight hheight
  | scanFailed hscan | cancelled hscan | aborted hscan => exact hscan.publisher_agrees r
  | commitFailed hscan hcommit =>
    exact (r.asked (.commit _ _) hcommit).trans (hscan.publisher_agrees r)
  | committed hscan hcommit =>
    have hbefore := (r.asked (.commit _ _) hcommit).trans (hscan.publisher_agrees r)
    rw [publisher_publishAll, published_append, published_map_publish]
    exact hbefore.publishAll _
  | alreadyApplied hscan hcommit hreload | notReloaded hscan hcommit hreload =>
    rw [published_append, hreload.quiet.2]
    exact ((hreload.publisher_agrees r).trans (r.asked (.commit _ _) hcommit)).trans
      (hscan.publisher_agrees r)

theorem Steps.published_eq_nil (h : Steps l b w calls outcome b' w')
    (hopen : ∀ window, outcome ≠ .ok (.committed window)) : published calls = [] := by
  cases h with
  | noHeight | upToDate | scanFailed | cancelled | aborted | commitFailed => rfl
  | committed => exact absurd rfl (hopen _)
  | alreadyApplied _ _ hreload | notReloaded _ _ hreload =>
    rw [published_append, hreload.quiet.2]
    rfl

/-- Before a step had anything to commit, the height or a scan failed. -/
def Fails (e : ScanError) (calls : List LoopCall) : Prop :=
  .height (.error e) ∈ calls ∨ ∃ window state, .scan window state (.failed e) ∈ calls

theorem fails_append {e : ScanError} {others : List LoopCall} :
    Fails e (calls ++ others) ↔ Fails e calls ∨ Fails e others := by
  simp only [Fails, List.mem_append, exists_or]
  exact or_or_or_comm

theorem Reloads.not_fails {result : Except ScanError Unit} (h : Reloads l b w calls result b' w')
    (e : ScanError) : ¬ Fails e calls := by
  cases h <;> simp [Fails]

theorem Steps.kept_of_uncommitted (h : Steps l b w calls outcome b' w')
    (hend : outcome = .ok .upToDate ∨ outcome = .ok .cancelled ∨ outcome = .ok .aborted ∨
      ∃ e, outcome = .error e ∧ Fails e calls) :
    b' = { b with phase := b'.phase } ∧ commits calls = [] ∧ published calls = [] := by
  cases h with
  | noHeight | upToDate | scanFailed | cancelled | aborted => exact ⟨rfl, rfl, rfl⟩
  | commitFailed | committed | alreadyApplied => simp [Fails] at hend
  | notReloaded _ _ hreload =>
    obtain hend | hend | hend | ⟨e, -, hfails⟩ := hend
    · cases hend
    · cases hend
    · cases hend
    · obtain hfails | hfails := fails_append.1 hfails
      · simp [Fails] at hfails
      · exact absurd hfails (hreload.not_fails e)

theorem Steps.kept_of_failed_commit (h : Steps l b w calls outcome b' w') {cursor : ScanCursor}
    {delta : AggregateDelta} {e : StoreError} (hcall : .commit cursor delta (.error e) ∈ calls) :
    outcome = .error (.store e) ∧ b' = { b with phase := b'.phase } ∧
      commits calls = [(cursor, delta, .error e)] ∧ published calls = [] := by
  cases h with
  | noHeight | upToDate | scanFailed | cancelled | aborted => simp at hcall
  | commitFailed =>
    obtain ⟨rfl, rfl, rfl⟩ : cursor = _ ∧ delta = _ ∧ e = _ := by simpa using hcall
    exact ⟨rfl, rfl, rfl, rfl⟩
  | committed => simp at hcall
  | alreadyApplied _ _ hreload | notReloaded _ _ hreload =>
    have hmem := mem_commits_of_mem hcall
    rw [commits_append, hreload.quiet.1, List.append_nil] at hmem
    cases List.mem_singleton.1 hmem

theorem Steps.of_committed {window : BlockWindow}
    (h : Steps l b w calls (.ok (.committed window)) b' w') : ∃ height out now,
      calls = [.height (.ok height), .scan window b.state (.output out),
          .commit ⟨l.target.chain, l.target.id, window.last, now⟩ out.delta (.ok .applied)]
        ++ (out.gauges ++ l.target.gauges out.state window
          ++ [Gauge.plain (alertName l) 0.0]).map .publish ∧
      b' = ⟨window.last, out.state, max l.config.maxRange 1, 0, .committing window⟩ := by
  cases h with
  | committed => exact ⟨_, _, _, rfl, rfl⟩

theorem Steps.of_alreadyApplied {window : BlockWindow}
    (h : Steps l b w calls (.ok (.alreadyApplied window)) b' w') :
    ∃ height out now stored given state,
      calls = [.height (.ok height), .scan window b.state (.output out),
        .commit ⟨l.target.chain, l.target.id, window.last, now⟩ out.delta (.ok .alreadyApplied),
        .loadCursor l.target.chain l.target.id (.ok stored),
        .loadState l.target.chain (.ok given),
        .hydrate (given.getD (.empty l.target.chain)) (.ok state)] ∧
      b' = { b with
        cursor := (stored.map (·.block)).getD b.cursor, state, phase := .committing window } ∧
      published calls = [] := by
  cases h with
  | alreadyApplied _ _ hreload =>
    cases hreload with
    | reloaded => exact ⟨_, _, _, _, _, _, rfl, rfl, rfl⟩

/-- Only an applied commit moves the scanner and publishes gauges. A step without work, a cancelled
one, and one that fails at the height or in a scan leave everything as it is and commit nothing; a
commit that fails is the only one, and leaves everything as it is. An applied commit is the only one
and of the scanned change; with it the scanner takes over the window, and gauges are published:
those of the scan, those of the target for the new state, and that the loop is connected. If another
writer was ahead, the scanner takes over what the store and the target answer, and nothing is
published. The gauges that a step does not publish keep their values, those of the pools excepted:
a call that changes the health of an endpoint sets them, whatever comes of the step. -/
theorem step_applied_only (h : step l b w = (outcome, b', w')) :
    ∃ calls, step l.recording b (w, []) = (outcome, b', w', calls) ∧
      (∀ r : GaugeRegistry l, (r.publisher w').AgreeOutside EndpointPool.healthKeys
        ((r.publisher w).publishAll (published calls))) ∧
      (outcome = .ok .upToDate ∨ outcome = .ok .cancelled ∨ outcome = .ok .aborted ∨
          (∃ e, outcome = .error e ∧ Fails e calls) →
        b' = { b with phase := b'.phase } ∧ commits calls = [] ∧ published calls = []) ∧
      (∀ cursor delta e, .commit cursor delta (.error e) ∈ calls →
        outcome = .error (.store e) ∧ b' = { b with phase := b'.phase } ∧
        commits calls = [(cursor, delta, .error e)] ∧ published calls = []) ∧
      (∀ window, outcome = .ok (.committed window) → ∃ height out now,
        calls = [.height (.ok height), .scan window b.state (.output out),
            .commit ⟨l.target.chain, l.target.id, window.last, now⟩ out.delta (.ok .applied)]
          ++ (out.gauges ++ l.target.gauges out.state window
            ++ [Gauge.plain (alertName l) 0.0]).map .publish ∧
        b' = ⟨window.last, out.state, max l.config.maxRange 1, 0, .committing window⟩) ∧
      ∀ window, outcome = .ok (.alreadyApplied window) → ∃ height out now stored given state,
        calls = [.height (.ok height), .scan window b.state (.output out),
          .commit ⟨l.target.chain, l.target.id, window.last, now⟩ out.delta (.ok .alreadyApplied),
          .loadCursor l.target.chain l.target.id (.ok stored),
          .loadState l.target.chain (.ok given),
          .hydrate (given.getD (.empty l.target.chain)) (.ok state)] ∧
        b' = { b with
          cursor := (stored.map (·.block)).getD b.cursor, state, phase := .committing window } ∧
        published calls = [] := by
  obtain ⟨calls, hsteps⟩ := steps_step l b w
  rw [h] at hsteps
  refine ⟨calls, hsteps.recording [], hsteps.publisher_agrees, hsteps.kept_of_uncommitted,
    fun _ _ _ => hsteps.kept_of_failed_commit, ?_, ?_⟩
  · rintro window rfl
    exact hsteps.of_committed
  · rintro window rfl
    exact hsteps.of_alreadyApplied

end BlockScanner

open LocalIndexer in
/-- The block of a deposit is committed, and its gauges are published. -/
theorem BlockScanner.step_applied_only_deposit :
    ∃ b' w', BlockScanner.step (depositWorld.loop tenBlocks) freshScanner (depositChain 1 .empty)
        = (.ok (.committed ⟨1, 1⟩), b', w') ∧
      ∃ out : ScanOutput,
        b' = ⟨1, out.state, 10, 0, .committing ⟨1, 1⟩⟩ ∧
        w'.publisher.AgreeOutside EndpointPool.healthKeys ((Publisher.new "").publishAll
          (out.gauges ++ EventsTarget.gauges out.state ⟨1, 1⟩
            ++ [.plain (BlockScanner.alertName (depositWorld.loop tenBlocks)) 0.0])) := by
  have hcommitted := freshScanner_committed (s := .empty) (.inl rfl) rfl (by decide)
  obtain ⟨calls, -, hgauges, -, -, hafter, -⟩ := step_applied_only (Prod.ext hcommitted rfl)
  obtain ⟨height, out, now, hcalls, hscanner⟩ := hafter ⟨1, 1⟩ rfl
  refine ⟨_, _, Prod.ext hcommitted rfl, out, hscanner, ?_⟩
  have hregistry := hgauges (gaugeRegistry (.ofConstants .standard 1) .parachain tenBlocks 1)
  rw [hcalls, LoopCall.published_append, LoopCall.published_map_publish] at hregistry
  exact hregistry

/-- Short of a commit, a step of an indexer's loop changes no gauges but the pools' own. -/
theorem LocalNodes.step_agreesWith {S : Type} {store : CheckpointStore S} {s : Settings}
    {price : Option (LocalNodes S → Option Float)} {config : ScannerConfig} {id : TargetId}
    {b b' : BlockScanner} {w w' : LocalNodes S} {outcome : Except ScanError StepOutcome}
    (h : BlockScanner.step (scanLoop store s price config id) b w = (outcome, b', w'))
    (hopen : ∀ window, outcome ≠ .ok (.committed window)) : AgreesWith w.publisher w' := by
  obtain ⟨calls, hsteps⟩ := BlockScanner.steps_step (scanLoop store s price config id) b w
  rw [h] at hsteps
  have hagrees := hsteps.publisher_agrees (gaugeRegistry store s price config id)
  rw [hsteps.published_eq_nil hopen] at hagrees
  exact hagrees

namespace RefusedEndpoint

def pool : EndpointPool :=
  ⟨.parachain, 60000, [⟨"ws://a", .healthy⟩], 0, Nat.one_pos, some 1⟩

/-- Nodes that refuse connections, with the gauge of the pool among those of the loops. -/
def nodes : LocalNodes MemoryStore where
  parachain := ⟨.null, [], none, [], [], .ofNat 1, []⟩
  relay := ⟨.null, [], [], none, [], [], []⟩
  parachainReader := .new pool ⟨5000, none, 10⟩
  relayReader :=
    .new ⟨.relayChain, 60000, [⟨"ws://b", .healthy⟩], 0, Nat.one_pos, none⟩ ⟨5000, none, 10⟩
  refused := ["ws://a", "ws://b"]
  hanging := []
  store := .empty
  publisher := pool.publishTo (.new "")
  eraStart := none

def loop : ScanLoop (LocalNodes MemoryStore) :=
  LocalNodes.scanLoop MemoryStore.store ⟨.standard, 1, default, 1, none, 2, 0⟩ none ⟨10, 0, 0, 0⟩
    .events

def refusal : ScanError :=
  .chain (.unavailable .parachain 1 (EndpointPoolError.exhausted .parachain).message false)

end RefusedEndpoint

open RefusedEndpoint in
/-- A step that cannot read the height commits and publishes nothing, and yet a gauge changes: the
pool sets its own when it puts the endpoint into quarantine. -/
theorem BlockScanner.failed_step_changes_poolGauge :
    ∃ w' : LocalNodes MemoryStore,
      BlockScanner.step loop ⟨0, .empty .parachain, 10, 0, .idle⟩ nodes
        = (.error refusal, ⟨0, .empty .parachain, 10, 0, .idle⟩, w') ∧
      BlockScanner.step loop.recording ⟨0, .empty .parachain, 10, 0, .idle⟩ (nodes, [])
        = (.error refusal, ⟨0, .empty .parachain, 10, 0, .idle⟩, w', [.height (.error refusal)]) ∧
      nodes.publisher.get? (EndpointPool.healthKey .parachain) = some 1.0 ∧
      w'.publisher.get? (EndpointPool.healthKey .parachain) = some 0.0 ∧ (0.0 : Float) ≠ 1.0 :=
  ⟨_, rfl, rfl, rfl, rfl, by decide⟩

end StakingIndexer
