import Mathlib
import StakingIndexer.Proofs.Reader.Answers

/-!
# What a reader asks for

A reader whose requests are written down answers as it does without that. It asks for the
windows into which the one it reads is cut, each as often as there are attempts, and stops at
the first that no endpoint answers.
-/

namespace StakingIndexer

/-- The outside of a reader, where each call is written down by the same record. -/
def Access.recording {σ α β : Type} (record : β) (a : Access σ α) : Access (σ × List β) α where
  now w := a.now w.1
  connect e := (a.connect e).onPart Prod.fst fun s w => (s, w.2)
  call e := (a.call e).recording fun _ => record

namespace ChainReader

variable {σ α β : Type} (a : Access σ α) (op : String) (record : β) (r : ChainReader) (s : σ)

theorem connectTo_recording (e : Endpoint) (journal : List β) :
    connectTo (a.recording record) r e (s, journal)
      = ((connectTo a r e s).1, (connectTo a r e s).2, journal) := by
  have hconnect : (a.recording record).connect e (s, journal)
      = ((a.connect e s).1, (a.connect e s).2, journal) := rfl
  unfold connectTo
  split_ifs
  · rfl
  · rw [hconnect]
    rcases a.connect e s with ⟨(error | _) | _, t⟩ <;> rfl

/-- An attempt is written down once, unless its endpoint is not reached. -/
theorem attempt_recording (e : Endpoint) (journal : List β) :
    ∃ k, attempt (a.recording record) op r e (s, journal)
      = ((attempt a op r e s).1, (attempt a op r e s).2.1, (attempt a op r e s).2.2,
        journal ++ List.replicate k record) := by
  unfold attempt
  rw [connectTo_recording]
  rcases connectTo a r e s with ⟨error | r', t⟩
  · exact ⟨0, by simp [Access.recording]⟩
  · have hcall : (a.recording record).call e (t, journal)
        = ((a.call e t).1, (a.call e t).2, journal ++ [record]) := rfl
    refine ⟨1, ?_⟩
    dsimp only
    rw [hcall]
    rcases a.call e t with ⟨((detail | detail | detail) | _) | v, u⟩ <;> rfl

theorem attempts_recording (left made : Nat) (last : LastAttempt) (journal : List β) :
    ∃ k, attempts (a.recording record) op left made last r (s, journal)
      = ((attempts a op left made last r s).1, (attempts a op left made last r s).2.1,
        (attempts a op left made last r s).2.2, journal ++ List.replicate k record) := by
  induction left generalizing made last r s journal with
  | zero => exact ⟨0, by simp [attempts]⟩
  | succ left ih =>
    have hnow : (a.recording record).now (s, journal) = a.now s := rfl
    unfold attempts
    rw [hnow]
    rcases r.pool.acquire (a.now s) with ⟨error | e, pool⟩
    · exact ⟨0, by simp⟩
    · obtain ⟨k, hattempt⟩ := attempt_recording a op record { r with pool } s e journal
      dsimp only
      rw [hattempt]
      rcases attempt a op { r with pool } e s with ⟨v | error | next, r', t⟩
      · exact ⟨k, rfl⟩
      · exact ⟨k, rfl⟩
      · obtain ⟨m, hrest⟩ := ih r' t (made + 1) next (journal ++ List.replicate k record)
        refine ⟨k + m, ?_⟩
        dsimp only
        rw [hrest, List.append_assoc, List.replicate_append_replicate]

end ChainReader

namespace Link

variable {σ : Type}

def recording (l : Link σ) : Link (σ × List BlockWindow) where
  reader w := l.reader w.1
  setReader r w := (l.setReader r w.1, w.2)
  now w := l.now w.1
  connect e := (l.connect e).onPart Prod.fst fun s w => (s, w.2)

def LogCall.recording (logs : LogCall σ) : LogCall (σ × List BlockWindow) :=
  fun w e => (logs w e).recording fun _ => w

variable (l : Link σ) (logs : LogCall σ) (s : σ)

/-- The windows that are asked for, with one endpoint after another, while one is read. -/
def requests (w : BlockWindow) : List BlockWindow :=
  (l.recording.fetchEvents logs.recording w (s, [])).2.2

theorem run_recording (w : BlockWindow) (journal : List BlockWindow) :
    ∃ k, l.recording.run "logs_in_range" (logs.recording w) (s, journal)
      = ((l.run "logs_in_range" (logs w) s).1, (l.run "logs_in_range" (logs w) s).2,
        journal ++ List.replicate k w) := by
  obtain ⟨k, hattempts⟩ := ChainReader.attempts_recording ⟨l.now, l.connect, logs w⟩
    "logs_in_range" w (l.reader s) s (l.reader s).attemptLimit 0 ⟨"no attempt made", false⟩
    journal
  refine ⟨k, ?_⟩
  have hrun : l.recording.run "logs_in_range" (logs.recording w) (s, journal)
      = let x := ChainReader.attempts (Access.recording w ⟨l.now, l.connect, logs w⟩)
          "logs_in_range" (l.reader s).attemptLimit 0 ⟨"no attempt made", false⟩ (l.reader s)
          (s, journal)
        (x.1, l.setReader x.2.1 x.2.2.1, x.2.2.2) := rfl
  rw [hrun, hattempts]
  rfl

theorem gather_recording (windows journal : List BlockWindow) :
    ∃ asked, asked ⊆ windows ∧ l.recording.gather logs.recording windows (s, journal)
      = ((l.gather logs windows s).1, (l.gather logs windows s).2, journal ++ asked) := by
  induction windows generalizing s journal with
  | nil =>
    refine ⟨[], List.Subset.refl _, ?_⟩
    rw [List.append_nil]
    rfl
  | cons w rest ih =>
    obtain ⟨k, hrun⟩ := run_recording l logs s w journal
    have hrecords : List.replicate k w ⊆ w :: rest := by
      intro u hu
      rw [List.eq_of_mem_replicate hu]
      exact List.mem_cons_self
    unfold gather
    rw [Action.bind_eq, Action.bind_eq, hrun]
    rcases l.run "logs_in_range" (logs w) s with ⟨error | batch, t⟩
    · exact ⟨_, hrecords, rfl⟩
    · obtain ⟨asked, hasked, hrest⟩ := ih t (journal ++ List.replicate k w)
      refine ⟨List.replicate k w ++ asked,
        List.append_subset.2 ⟨hrecords, List.subset_cons_of_subset _ hasked⟩, ?_⟩
      dsimp only
      rw [Action.bind_eq, Action.bind_eq, hrest, List.append_assoc]
      rcases l.gather logs rest t with ⟨error | others, u⟩ <;> rfl

theorem fetchEvents_eq (w : BlockWindow) :
    l.fetchEvents logs w s
      = let x := l.gather logs (BlockWindow.plan w.first w.last (l.reader s).config.maxRange) s
        (x.1.map Event.sortByKey, x.2) := by
  unfold fetchEvents
  rw [Action.map_eq]
  rcases l.gather logs _ s with ⟨error | answer, t⟩ <;> rfl

theorem requests_eq (w : BlockWindow) :
    l.requests logs s w = (l.recording.gather logs.recording
      (BlockWindow.plan w.first w.last (l.reader s).config.maxRange) (s, [])).2.2 := by
  rw [requests, fetchEvents_eq]
  rfl

/-- A reader whose requests are written down answers as it does without that. -/
theorem fetchEvents_recording (w : BlockWindow) :
    l.recording.fetchEvents logs.recording w (s, [])
      = ((l.fetchEvents logs w s).1, (l.fetchEvents logs w s).2, l.requests logs s w) := by
  have hplan : (l.recording.reader (s, [])).config = (l.reader s).config := rfl
  obtain ⟨asked, -, hgather⟩ := gather_recording l logs s
    (BlockWindow.plan w.first w.last (l.reader s).config.maxRange) []
  rw [requests_eq, fetchEvents_eq, fetchEvents_eq, hplan, hgather]

theorem requests_subset_plan (w : BlockWindow) :
    l.requests logs s w ⊆ BlockWindow.plan w.first w.last (l.reader s).config.maxRange := by
  obtain ⟨asked, hasked, hgather⟩ := gather_recording l logs s
    (BlockWindow.plan w.first w.last (l.reader s).config.maxRange) []
  rw [requests_eq, hgather]
  exact hasked

variable {l logs s}

/-- Reading windows ends where one of them cannot be read. -/
theorem gather_error {pre post : List BlockWindow} {v : BlockWindow} {batch : List Event}
    {error : ReadError} {t u : σ} (hpre : l.gather logs pre s = (.ok batch, t))
    (hrun : l.run "logs_in_range" (logs v) t = (.error error, u)) :
    l.gather logs (pre ++ v :: post) s = (.error error, u) := by
  induction pre generalizing s batch with
  | nil =>
    cases hpre
    rw [List.nil_append, gather, Action.bind_eq, hrun]
  | cons w pre ih =>
    rw [gather, Action.bind_eq] at hpre
    rw [List.cons_append, gather, Action.bind_eq]
    generalize l.run "logs_in_range" (logs w) s = x at hpre ⊢
    obtain ⟨e | first, s'⟩ := x
    · cases hpre
    · dsimp only at hpre ⊢
      rw [Action.bind_eq] at hpre ⊢
      generalize hrest : l.gather logs pre s' = y at hpre
      obtain ⟨e | others, s''⟩ := y
      · cases hpre
      · cases hpre
        rw [ih hrest]

theorem requests_of_error {w v : BlockWindow} {pre post : List BlockWindow} {batch : List Event}
    {error : ReadError} {t u : σ}
    (hplan : BlockWindow.plan w.first w.last (l.reader s).config.maxRange = pre ++ v :: post)
    (hpre : l.gather logs pre s = (.ok batch, t))
    (hrun : l.run "logs_in_range" (logs v) t = (.error error, u)) :
    ∀ x ∈ l.requests logs s w, x ∈ pre ++ [v] := by
  obtain ⟨asked, hasked, hgather⟩ := gather_recording l logs s pre []
  obtain ⟨k, hcall⟩ := run_recording l logs t v ([] ++ asked)
  rw [hpre] at hgather
  rw [hrun] at hcall
  intro x hx
  rw [requests_eq, hplan, gather_error hgather hcall] at hx
  simp only [List.nil_append, List.mem_append, List.mem_singleton] at hx ⊢
  rcases hx with hx | hx
  · exact .inl (hasked hx)
  · exact .inr (List.eq_of_mem_replicate hx)

theorem fetchEvents_sorted {I : σ → Prop} {events answer : List Event}
    (hkeys : (events.map Event.key).Nodup)
    (hconnect : ∀ e, (l.connect e).Meets I fun _ => True)
    (hreader : ∀ r s, I s → I (l.setReader r s)) (hlogs : Faithful I logs events)
    (w : BlockWindow) (hs : I s) (h : (l.fetchEvents logs w s).1 = .ok answer) :
    answer = Event.sortByKey (Event.within w events) := by
  have hgather := (gather_meets hconnect hreader hlogs
    (BlockWindow.plan w.first w.last (l.reader s).config.maxRange) s hs).2
  rw [fetchEvents_eq] at h
  generalize l.gather logs _ s = x at h hgather
  obtain ⟨error | gathered, t⟩ := x
  · cases h
  · cases h
    have hperm : gathered.Perm (Event.within w events) :=
      (hgather gathered rfl).trans (Event.flatMap_plan_perm w.first w.last _ events)
    refine Event.sortByKey_eq_of_perm hperm ?_
    exact (hperm.map Event.key).nodup_iff.2 (Event.nodup_keys_within hkeys w)

/-- Where endpoints answer with the events of the windows they are asked for, in any order, the
events that a reader fetches are those of the window by ascending place, each once, whatever
the range and whichever attempts fail. What it asks for lies within the window and keeps to the
range; the first window that cannot be read decides, and none is asked for behind it. -/
theorem fetchEvents_exact {I : σ → Prop} {events : List Event}
    (hkeys : (events.map Event.key).Nodup)
    (hconnect : ∀ e, (l.connect e).Meets I fun _ => True)
    (hreader : ∀ r s, I s → I (l.setReader r s)) (hlogs : Faithful I logs events)
    (w : BlockWindow) (hs : I s) :
    l.recording.fetchEvents logs.recording w (s, [])
        = ((l.fetchEvents logs w s).1, (l.fetchEvents logs w s).2, l.requests logs s w) ∧
      (∀ answer, (l.fetchEvents logs w s).1 = .ok answer →
        answer.Perm (Event.within w events) ∧ answer.Pairwise Event.Before ∧
          answer = Event.sortByKey (Event.within w events)) ∧
      (∀ v ∈ l.requests logs s w, v.Fits w.first w.last (l.reader s).config.maxRange) ∧
      ∀ pre v post batch t error u,
        BlockWindow.plan w.first w.last (l.reader s).config.maxRange = pre ++ v :: post →
        l.gather logs pre s = (.ok batch, t) →
        l.run "logs_in_range" (logs v) t = (.error error, u) →
          l.fetchEvents logs w s = (.error error, u) ∧ ∀ x ∈ post, x ∉ l.requests logs s w := by
  refine ⟨fetchEvents_recording l logs s w, ?_, ?_, ?_⟩
  · intro answer hanswer
    have hwithin := Event.nodup_keys_within hkeys w
    obtain rfl := fetchEvents_sorted hkeys hconnect hreader hlogs w hs hanswer
    exact ⟨Event.sortByKey_perm _, Event.pairwise_before_sortByKey hwithin, rfl⟩
  · intro v hv
    exact BlockWindow.fits_of_mem_plan (requests_subset_plan l logs s w hv)
  · intro pre v post batch t error u hplan hpre hrun
    refine ⟨?_, fun x hx hasked => ?_⟩
    · rw [fetchEvents_eq, hplan, gather_error hpre hrun]
      rfl
    · have hnodup := BlockWindow.nodup_plan w.first w.last (l.reader s).config.maxRange
      rw [hplan, List.append_cons] at hnodup
      exact List.disjoint_of_nodup_append hnodup (requests_of_error hplan hpre hrun x hasked) hx

def shuffledDeposits : List Event :=
  [⟨5, 0, .deposited (.ofNat 2) (.ofUInt64 1)⟩, ⟨2, 1, .deposited (.ofNat 2) (.ofUInt64 1)⟩,
    ⟨2, 0, .deposited (.ofNat 2) (.ofUInt64 1)⟩]

/-- Nodes of which one is down; the others refuse windows with the block 9. -/
def shuffledLogs : LogCall ChainReader := fun w e r =>
  if e.url = "a" then (.error (.failed (.transport "connection reset by peer")), r)
  else if w.contains 9 then (.error (.failed (.rangeTooLarge "too many results")), r)
  else (.ok (Event.within w shuffledDeposits).reverse, r)

def statelessLink : Link ChainReader where
  reader r := r
  setReader r _ := r
  now _ := 0
  connect _ r := (.ok (), r)

/-- A reader of two blocks at a time whose first endpoint is down. -/
def pairsReader : ChainReader where
  pool :=
    { chain := .parachain
      quarantine := 1000
      slots := [⟨"a", .healthy⟩, ⟨"b", .healthy⟩]
      cursor := 0
      cursor_lt := by decide
      published := none }
  connected := []
  config := ⟨5000, none, 2⟩

theorem faithful_shuffledLogs : Faithful (fun _ => True) shuffledLogs shuffledDeposits := by
  intro w e r _
  unfold shuffledLogs
  split_ifs
  · exact ⟨trivial, fun v hv => by cases hv⟩
  · exact ⟨trivial, fun v hv => by cases hv⟩
  · refine ⟨trivial, fun v hv => ?_⟩
    cases hv
    exact List.reverse_perm _

/-- The first window is asked for twice; behind a window that is refused none is asked for. -/
theorem fetchEvents_exact_shuffled :
    (statelessLink.fetchEvents shuffledLogs ⟨1, 5⟩ pairsReader).1 = .ok shuffledDeposits.reverse ∧
      statelessLink.requests shuffledLogs pairsReader ⟨1, 5⟩
        = [⟨1, 2⟩, ⟨1, 2⟩, ⟨3, 4⟩, ⟨5, 5⟩] ∧
      (statelessLink.fetchEvents shuffledLogs ⟨6, 12⟩ pairsReader).1
        = .error (.rangeTooLarge .parachain "too many results") ∧
      ⟨10, 11⟩ ∉ statelessLink.requests shuffledLogs pairsReader ⟨6, 12⟩ := by
  have hexact (w : BlockWindow) := fetchEvents_exact (l := statelessLink) (s := pairsReader)
    (by decide) (fun _ _ _ => ⟨trivial, fun _ _ => trivial⟩) (fun _ _ _ => trivial)
    faithful_shuffledLogs w trivial
  have hplan : BlockWindow.plan 1 5 (statelessLink.reader pairsReader).config.maxRange
      = [⟨1, 2⟩, ⟨3, 4⟩, ⟨5, 5⟩] := by cbv
  refine ⟨?_, ?_, ?_⟩
  · obtain ⟨answer, hanswer⟩ : ∃ answer,
        (statelessLink.fetchEvents shuffledLogs ⟨1, 5⟩ pairsReader).1 = .ok answer :=
      ⟨_, by rw [fetchEvents_eq, hplan]; cbv⟩
    obtain ⟨-, -, hsorted⟩ := (hexact ⟨1, 5⟩).2.1 answer hanswer
    rw [hanswer, hsorted]
    cbv
  · rw [requests_eq, hplan]
    cbv
  · have hcut : BlockWindow.plan 6 12 2 = [⟨6, 7⟩] ++ ⟨8, 9⟩ :: [⟨10, 11⟩, ⟨12, 12⟩] := by cbv
    obtain ⟨herror, hlater⟩ := (hexact ⟨6, 12⟩).2.2.2 _ _ _ _ _ _ _ hcut rfl rfl
    exact ⟨by rw [herror]; rfl, hlater _ (by decide)⟩

end Link
end StakingIndexer
