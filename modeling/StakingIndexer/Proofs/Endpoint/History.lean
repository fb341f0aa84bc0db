import Mathlib
import StakingIndexer.Endpoint.Command

/-!
# Pools and their histories

A pool marks the endpoints that fail, and lifts a quarantine late: when it is asked for an
endpoint. What it answers can be told from its history alone, without marks. An endpoint is
eligible unless its last call that was reported failed less than a quarantine ago, and the
eligible ones are handed out in turn.
-/

namespace StakingIndexer

/-- A command to a pool, the instant at which it came, and its answer. -/
structure PoolRecord where
  instant : Nat
  command : PoolCommand
  answer : TimedPool.Answer

/-- What has happened to a pool, in order. -/
abbrev PoolHistory := List PoolRecord

def Endpoint.ofUrls (chain : Chain) (urls : List String) : List Endpoint :=
  urls.zipIdx.map fun u => ⟨u.2, u.1, chain⟩

theorem Endpoint.getElem?_ofUrls (chain : Chain) (urls : List String) (id : Nat) :
    (ofUrls chain urls)[id]? = urls[id]?.map fun url => ⟨id, url, chain⟩ := by
  simp [ofUrls, Function.comp_def]

theorem Endpoint.length_ofUrls (chain : Chain) (urls : List String) :
    (ofUrls chain urls).length = urls.length := by
  rw [ofUrls, List.length_map, List.length_zipIdx]

theorem PoolSlot.url_promote (now : Nat) (s : PoolSlot) : (s.promote now).url = s.url := by
  unfold promote
  split
  · split_ifs <;> rfl
  · rfl

namespace PoolHistory

variable (h : PoolHistory)

/-- The calls to an endpoint that were reported, with their instants. -/
def reports (id : Nat) : List (Nat × CallOutcome) :=
  h.filterMap fun r => match r.command with
    | .report j outcome => if j = id then some (r.instant, outcome) else none
    | _ => none

def handedOut : List Endpoint :=
  h.filterMap fun r => match r.answer with
    | some (.ok e) => some e
    | _ => none

def eligible (quarantine now id : Nat) : Bool :=
  match (h.reports id).getLast? with
  | some (instant, .failure) => instant + quarantine ≤ now
  | _ => true

/-- The slot whose turn it is: the one behind the endpoint that was handed out last. -/
def turn : Nat :=
  match h.handedOut.getLast? with
  | some e => e.id + 1
  | none => 0

/-- The first eligible endpoint in cyclic order from the slot whose turn it is. -/
def next? (quarantine now : Nat) (endpoints : List Endpoint) : Option Endpoint :=
  (endpoints.rotate h.turn).find? fun e => h.eligible quarantine now e.id

variable {h}

theorem reports_append (r : PoolRecord) (id : Nat) :
    PoolHistory.reports (h ++ [r]) id = h.reports id ++ PoolHistory.reports [r] id :=
  List.filterMap_append

theorem turn_append (r : PoolRecord) : PoolHistory.turn (h ++ [r])
    = match r.answer with
      | some (.ok e) => e.id + 1
      | _ => h.turn := by
  rw [turn, handedOut, List.filterMap_append]
  rcases hanswer : r.answer with _ | (error | e) <;> simp [turn, handedOut, hanswer]

theorem next?_eq_none_iff {quarantine now : Nat} (chain : Chain) {urls : List String} :
    h.next? quarantine now (Endpoint.ofUrls chain urls) = none ↔
      ∀ id < urls.length, h.eligible quarantine now id = false := by
  rw [next?, List.find?_eq_none]
  constructor
  · intro hnone id hid
    have hmem : Endpoint.mk id urls[id] chain ∈ (Endpoint.ofUrls chain urls).rotate h.turn := by
      rw [List.mem_rotate, List.mem_iff_getElem?]
      exact ⟨id, by rw [Endpoint.getElem?_ofUrls, List.getElem?_eq_getElem hid]; rfl⟩
    simpa using hnone _ hmem
  · intro hnone e he
    obtain ⟨id, hid⟩ := List.mem_iff_getElem?.1 (List.mem_rotate.1 he)
    rw [Endpoint.getElem?_ofUrls, Option.map_eq_some_iff] at hid
    obtain ⟨url, hurl, rfl⟩ := hid
    simpa using hnone id (List.getElem?_eq_some_iff.1 hurl).1

end PoolHistory

theorem find?_range_rotate {α : Type} (l : List α) (p : α → Bool) (n : Nat) :
    (((List.range l.length).rotate n).find? fun i => l[i]?.any p).bind (l[·]?)
      = (l.rotate n).find? p := by
  have hpositions := List.map_coe_finRange_eq_range (n := l.length)
  have hentries := List.map_get_finRange l
  calc _ = (((List.finRange l.length).rotate n).find? (p ∘ l.get)).map l.get := by
        rw [← hpositions, ← List.map_rotate, List.find?_map, Option.bind_map]
        simp only [Function.comp_def, Fin.is_lt, getElem?_pos, Option.any_some, List.get_eq_getElem]
        exact (Option.map_eq_bind ..).symm
    _ = _ := by
        rw [← List.find?_map, List.map_rotate, hentries]

namespace EndpointPool

def endpoints (p : EndpointPool) : List Endpoint := Endpoint.ofUrls p.chain p.urls

theorem endpoint?_eq (p : EndpointPool) (id : Nat) : p.endpoint? id = p.endpoints[id]? := by
  rw [endpoints, Endpoint.getElem?_ofUrls, urls, List.getElem?_map, Option.map_map]
  rfl

theorem searchOrder_eq (p : EndpointPool) :
    p.searchOrder = (List.range p.size).rotate p.cursor := by
  apply List.ext_getElem
  · simp [searchOrder]
  · intro k _ _
    simp [searchOrder, List.getElem_rotate, Nat.add_comm]

theorem nextHealthy?_bind_endpoint? {p : EndpointPool} {healthy : Nat → Bool}
    (h : ∀ id slot, p.slots[id]? = some slot → slot.isHealthy = healthy id) :
    p.nextHealthy?.bind p.endpoint?
      = (p.endpoints.rotate p.cursor).find? fun e => healthy e.id := by
  have hsize : p.size = p.endpoints.length := by
    rw [endpoints, Endpoint.length_ofUrls, urls, List.length_map, size]
  have hslot : ∀ id : Nat,
      p.slots[id]?.any (·.isHealthy) = p.endpoints[id]?.any (healthy ·.id) := by
    intro id
    rw [← endpoint?_eq, endpoint?, Option.any_map]
    cases hslot : p.slots[id]? with
    | none => rfl
    | some slot => exact h id slot hslot
  rw [← find?_range_rotate, nextHealthy?, searchOrder_eq, hsize]
  simp only [hslot, endpoint?_eq]

theorem report_of_unknown {p : EndpointPool} {id : Nat} (h : p.slots[id]? = none) (now : Nat)
    (outcome : CallOutcome) : p.report now id outcome = p := by
  unfold report
  rw [h]

theorem acquire_eq (p : EndpointPool) (now : Nat) : ∃ q : EndpointPool,
    (q.chain = p.chain ∧ q.quarantine = p.quarantine ∧ q.slots = p.slots.map (·.promote now) ∧
      q.cursor = p.cursor) ∧
    p.acquire now = match q.nextHealthy?.bind q.endpoint? with
      | some e => (.ok e, q.advanceTo e.id)
      | none => (.error (.exhausted p.chain), q) := by
  have hpromoted : ∀ q, (if (p.promoteExpired now).slots = p.slots then p
      else (p.promoteExpired now).publishHealth) = q → q.chain = p.chain ∧
      q.quarantine = p.quarantine ∧ q.slots = p.slots.map (·.promote now) ∧
      q.cursor = p.cursor := by
    rintro q rfl
    split_ifs with hslots
    · exact ⟨rfl, rfl, hslots.symm, rfl⟩
    · exact ⟨rfl, rfl, rfl, rfl⟩
  unfold acquire
  dsimp only
  generalize (if (p.promoteExpired now).slots = p.slots then p
    else (p.promoteExpired now).publishHealth) = q at hpromoted
  have hq := hpromoted q rfl
  refine ⟨q, hq, ?_⟩
  cases q.nextHealthy? with
  | none => rw [hq.1]; rfl
  | some id =>
    rw [Option.bind_some]
    dsimp only
    cases hendpoint : q.endpoint? id with
    | none => rw [hq.1]
    | some e =>
      obtain ⟨slot, -, rfl⟩ := Option.map_eq_some_iff.1 hendpoint
      rfl

end EndpointPool

/-- How the health of a slot follows from the last report of its endpoint. -/
inductive Health.Follows (quarantine now : Nat) : Option (Nat × CallOutcome) → Health → Prop
  | unreported : Follows quarantine now none .healthy
  | succeeded (instant : Nat) : Follows quarantine now (some (instant, .success)) .healthy
  | failed (instant : Nat) : Follows quarantine now (some (instant, .failure))
      (.quarantined (instant + quarantine))
  | lifted (instant : Nat) (hover : instant + quarantine ≤ now) :
      Follows quarantine now (some (instant, .failure)) .healthy

namespace Health.Follows

variable {quarantine now : Nat} {last : Option (Nat × CallOutcome)} {slot : PoolSlot}
  (h : slot.health.Follows quarantine now last)
include h

theorem later {instant : Nat} (hle : now ≤ instant) :
    slot.health.Follows quarantine instant last := by
  generalize slot.health = health at h ⊢
  cases h with
  | unreported => exact .unreported
  | succeeded reported => exact .succeeded reported
  | failed reported => exact .failed reported
  | lifted reported hover => exact .lifted reported (hover.trans hle)

theorem promote : (slot.promote now).health.Follows quarantine now last := by
  obtain ⟨url, health⟩ := slot
  cases h with
  | unreported => exact .unreported
  | succeeded reported => exact .succeeded reported
  | lifted reported hover => exact .lifted reported hover
  | failed reported =>
    dsimp only [PoolSlot.promote]
    split_ifs with hover
    · exact .lifted reported hover
    · exact .failed reported

omit h in
/-- Behind the lifting of quarantines that are over, the healthy slots are the eligible ones. -/
theorem isHealthy_promote {history : PoolHistory} {id : Nat}
    (h : slot.health.Follows quarantine now (history.reports id).getLast?) :
    (slot.promote now).isHealthy = history.eligible quarantine now id := by
  unfold PoolHistory.eligible
  generalize (history.reports id).getLast? = last at h ⊢
  obtain ⟨url, health⟩ := slot
  cases h with
  | unreported => rfl
  | succeeded => rfl
  | lifted reported hover => simp [PoolSlot.promote, PoolSlot.isHealthy, hover]
  | failed reported => by_cases hover : reported + quarantine ≤ now <;>
      simp [PoolSlot.promote, PoolSlot.isHealthy, hover]

end Health.Follows

namespace EndpointPool

/-- A report marks the slot of its endpoint, if there is one, and nothing else. -/
theorem report_eq (p : EndpointPool) (now id : Nat) (outcome : CallOutcome) :
    ((p.report now id outcome).chain = p.chain ∧
      (p.report now id outcome).quarantine = p.quarantine ∧
      (p.report now id outcome).urls = p.urls ∧ (p.report now id outcome).cursor = p.cursor) ∧
    ∀ (j : Nat) slot, (p.report now id outcome).slots[j]? = some slot →
      j = id ∧ slot.health = (match outcome with
        | .failure => .quarantined (now + p.quarantine)
        | .success => .healthy) ∨
      j ≠ id ∧ p.slots[j]? = some slot := by
  have hmark : ∀ health : Health, (p.setHealth id health).urls = p.urls ∧
      ∀ (j : Nat) slot, (p.setHealth id health).slots[j]? = some slot →
        j = id ∧ slot.health = health ∨ j ≠ id ∧ p.slots[j]? = some slot := by
    intro health
    constructor
    · change (p.slots.modify id _).map PoolSlot.url = p.slots.map PoolSlot.url
      refine List.ext_getElem? fun j => ?_
      rw [List.getElem?_map, List.getElem?_map, List.getElem?_modify]
      cases p.slots[j]? with
      | none => rfl
      | some slot => by_cases hj : id = j <;> simp [hj]
    · intro j slot hslot
      change (p.slots.modify id _)[j]? = some slot at hslot
      rw [List.getElem?_modify, Option.map_eq_map, Option.map_eq_some_iff] at hslot
      obtain ⟨marked, hmarked, rfl⟩ := hslot
      by_cases hj : id = j
      · exact .inl ⟨hj.symm, by rw [if_pos hj]⟩
      · exact .inr ⟨Ne.symm hj, by rw [if_neg hj]; exact hmarked⟩
  cases hfound : p.slots[id]? with
  | none =>
    rw [report_of_unknown hfound]
    refine ⟨⟨rfl, rfl, rfl, rfl⟩, fun j slot hslot => .inr ⟨?_, hslot⟩⟩
    rintro rfl
    rw [hfound] at hslot
    cases hslot
  | some marked =>
    unfold report
    rw [hfound]
    cases outcome with
    | failure => exact ⟨⟨rfl, rfl, (hmark _).1, rfl⟩, (hmark _).2⟩
    | success =>
      dsimp only
      split_ifs with hhealthy
      · refine ⟨⟨rfl, rfl, rfl, rfl⟩, fun j slot hslot => ?_⟩
        by_cases hj : j = id
        · subst hj
          rw [hfound] at hslot
          cases hslot
          exact .inl ⟨rfl, of_decide_eq_true hhealthy⟩
        · exact .inr ⟨hj, hslot⟩
      · exact ⟨⟨rfl, rfl, (hmark _).1, rfl⟩, (hmark _).2⟩

end EndpointPool

namespace TimedPool

def run (p : TimedPool) (commands : List PoolCommand) : TimedPool :=
  commands.foldl (fun p c => (p.execute c).2) p

def history : TimedPool → List PoolCommand → PoolHistory
  | _, [] => []
  | p, c :: rest => ⟨p.now, c, (p.execute c).1⟩ :: history (p.execute c).2 rest

/-- A pool over urls that is in the state to which a history leads. -/
structure Follows (p : TimedPool) (chain : Chain) (urls : List String) (quarantine : Nat)
    (h : PoolHistory) : Prop where
  chain_eq : p.pool.chain = chain
  urls_eq : p.pool.urls = urls
  quarantine_eq : p.pool.quarantine = quarantine
  cursor_eq : p.pool.cursor = h.turn % urls.length
  health : ∀ (id : Nat) slot, p.pool.slots[id]? = some slot →
    slot.health.Follows quarantine p.now (h.reports id).getLast?

namespace Follows

variable {p : TimedPool} {chain : Chain} {urls : List String} {quarantine : Nat} {h : PoolHistory}
  (hp : p.Follows chain urls quarantine h)
include hp

/-- A pool hands out the first eligible endpoint in turn. -/
theorem acquire : ∃ q : EndpointPool, TimedPool.Follows ⟨q, p.now⟩ chain urls quarantine h ∧
    p.execute .acquire = match h.next? quarantine p.now (Endpoint.ofUrls chain urls) with
      | some e => (some (.ok e), ⟨q.advanceTo e.id, p.now⟩)
      | none => (some (.error (.exhausted chain)), ⟨q, p.now⟩) := by
  obtain ⟨q, ⟨hchain, hquarantine, hslots, hcursor⟩, hacquire⟩ := p.pool.acquire_eq p.now
  have hslot : ∀ (id : Nat) slot, q.slots[id]? = some slot →
      ∃ marked : PoolSlot, marked.health.Follows quarantine p.now (h.reports id).getLast? ∧
        marked.promote p.now = slot := by
    intro id slot hslot
    rw [hslots, List.getElem?_map, Option.map_eq_some_iff] at hslot
    obtain ⟨marked, hmarked, rfl⟩ := hslot
    exact ⟨marked, hp.health id marked hmarked, rfl⟩
  have hq : TimedPool.Follows ⟨q, p.now⟩ chain urls quarantine h := {
    chain_eq := hchain.trans hp.chain_eq
    urls_eq := by
      rw [← hp.urls_eq, EndpointPool.urls, EndpointPool.urls, hslots, List.map_map]
      exact List.map_congr_left fun slot _ => slot.url_promote p.now
    quarantine_eq := hquarantine.trans hp.quarantine_eq
    cursor_eq := hcursor.trans hp.cursor_eq
    health := by
      intro id slot hfound
      obtain ⟨marked, hmarked, rfl⟩ := hslot id slot hfound
      exact hmarked.promote }
  have hnext : q.nextHealthy?.bind q.endpoint?
      = h.next? quarantine p.now (Endpoint.ofUrls chain urls) := by
    have hhealthy : ∀ id slot, q.slots[id]? = some slot →
        slot.isHealthy = h.eligible quarantine p.now id := by
      intro id slot hfound
      obtain ⟨marked, hmarked, rfl⟩ := hslot id slot hfound
      exact hmarked.isHealthy_promote
    have hmod := (Endpoint.ofUrls chain urls).rotate_mod h.turn
    rw [Endpoint.length_ofUrls, ← hq.cursor_eq] at hmod
    rw [EndpointPool.nextHealthy?_bind_endpoint? hhealthy, EndpointPool.endpoints, hq.chain_eq,
      hq.urls_eq, hmod]
    rfl
  refine ⟨q, hq, ?_⟩
  unfold execute
  rw [hacquire, hnext, hp.chain_eq]
  cases h.next? quarantine p.now (Endpoint.ofUrls chain urls) <;> rfl

/-- What a record adds to a history if it is neither a report nor hands out an endpoint. -/
theorem append {r : PoolRecord} (hreport : ∀ id, PoolHistory.reports [r] id = [])
    (hanswer : ∀ e, r.answer ≠ some (.ok e)) :
    p.Follows chain urls quarantine (h ++ [r]) where
  chain_eq := hp.chain_eq
  urls_eq := hp.urls_eq
  quarantine_eq := hp.quarantine_eq
  cursor_eq := by
    rw [hp.cursor_eq, PoolHistory.turn_append]
    rcases hr : r.answer with _ | (error | e)
    · rfl
    · rfl
    · exact absurd hr (hanswer e)
  health id slot hslot := by
    rw [PoolHistory.reports_append, hreport, List.append_nil]
    exact hp.health id slot hslot

theorem execute_acquire : (p.execute .acquire).2.Follows chain urls quarantine
    (h ++ [⟨p.now, .acquire, (p.execute .acquire).1⟩]) := by
  obtain ⟨q, hq, hacquire⟩ := hp.acquire
  rw [hacquire]
  cases h.next? quarantine p.now (Endpoint.ofUrls chain urls) with
  | none => exact hq.append (fun _ => rfl) fun _ he => by cases he
  | some e => exact {
      chain_eq := hq.chain_eq
      urls_eq := hq.urls_eq
      quarantine_eq := hq.quarantine_eq
      cursor_eq := by
        rw [PoolHistory.turn_append, ← hq.urls_eq, EndpointPool.urls, List.length_map]
        rfl
      health := fun id slot hslot => by
        have hreport : PoolHistory.reports [⟨p.now, .acquire, some (.ok e)⟩] id = [] := rfl
        dsimp only
        rw [PoolHistory.reports_append, hreport, List.append_nil]
        exact hq.health id slot hslot }

theorem execute_report (id : Nat) (outcome : CallOutcome) :
    (p.execute (.report id outcome)).2.Follows chain urls quarantine
      (h ++ [⟨p.now, .report id outcome, none⟩]) := by
  obtain ⟨⟨hchain, hquarantine, hurls, hcursor⟩, hslots⟩ :=
    p.pool.report_eq p.now id outcome
  refine ⟨hchain.trans hp.chain_eq, hurls.trans hp.urls_eq, hquarantine.trans hp.quarantine_eq,
    ?_, fun j slot hslot => ?_⟩
  · rw [PoolHistory.turn_append]
    exact hcursor.trans hp.cursor_eq
  · rw [PoolHistory.reports_append]
    obtain ⟨rfl, hhealth⟩ | ⟨hj, hslot⟩ := hslots j slot hslot
    · have hreport : PoolHistory.reports [⟨p.now, .report j outcome, none⟩] j
          = [(p.now, outcome)] := by simp [PoolHistory.reports]
      rw [hreport, List.getLast?_concat, hhealth, hp.quarantine_eq]
      cases outcome with
      | success => exact .succeeded p.now
      | failure => exact .failed p.now
    · have hreport : PoolHistory.reports [⟨p.now, .report id outcome, none⟩] j = [] := by
        simp [PoolHistory.reports, Ne.symm hj]
      rw [hreport, List.append_nil]
      exact hp.health j slot hslot

/-- Every command leads to the state to which its record leads. -/
theorem execute (c : PoolCommand) : (p.execute c).2.Follows chain urls quarantine
    (h ++ [⟨p.now, c, (p.execute c).1⟩]) := by
  cases c with
  | acquire => exact hp.execute_acquire
  | report id outcome => exact hp.execute_report id outcome
  | attachPublisher =>
    have hpublished : TimedPool.Follows ⟨p.pool.attachPublisher, p.now⟩ chain urls quarantine h :=
      { hp with }
    exact hpublished.append (fun _ => rfl) fun _ he => by cases he
  | advance milliseconds =>
    have hlater : TimedPool.Follows ⟨p.pool, p.now + milliseconds⟩ chain urls quarantine h :=
      { hp with
        health := fun id slot hslot => (hp.health id slot hslot).later (Nat.le_add_right ..) }
    exact hlater.append (fun _ => rfl) fun _ he => by cases he

theorem run (commands : List PoolCommand) :
    (p.run commands).Follows chain urls quarantine (h ++ p.history commands) := by
  induction commands generalizing p h with
  | nil =>
    rw [history, List.append_nil]
    exact hp
  | cons c commands ih =>
    have hrest := ih (hp.execute c)
    rw [List.append_assoc] at hrest
    exact hrest

end Follows

theorem follows_ofUrls {chain : Chain} {urls : List String} {quarantine : Nat}
    {pool : EndpointPool} (hpool : EndpointPool.ofUrls chain urls quarantine = .ok pool)
    (start : Nat) : Follows ⟨pool, start⟩ chain urls quarantine [] := by
  cases urls with
  | nil => cases hpool
  | cons url rest =>
    cases hpool
    refine ⟨rfl, ?_, rfl, (Nat.zero_mod _).symm, fun id slot hslot => ?_⟩
    · exact (List.map_map ..).trans (List.map_id _)
    · obtain ⟨_, -, rfl⟩ := Option.map_eq_some_iff.1 ((List.getElem?_map ..).symm.trans hslot)
      exact .unreported

/-- Whatever is done with a pool, it hands out the first endpoint in turn that is eligible by its
history, and none only if none is; it keeps its endpoints, and ignores the reports of others. -/
theorem acquire_eq_of_history {chain : Chain} {urls : List String} {quarantine : Nat}
    {pool : EndpointPool} (hpool : EndpointPool.ofUrls chain urls quarantine = .ok pool)
    (start : Nat) (commands : List PoolCommand) :
    let p := run ⟨pool, start⟩ commands
    let h := history ⟨pool, start⟩ commands
    (p.execute .acquire).1 = some (match h.next? quarantine p.now (Endpoint.ofUrls chain urls) with
        | some e => .ok e
        | none => .error (.exhausted chain)) ∧
      ((p.execute .acquire).1 = some (.error (.exhausted chain)) ↔
        ∀ id < urls.length, h.eligible quarantine p.now id = false) ∧
      p.pool.endpoints = Endpoint.ofUrls chain urls ∧
      ∀ id outcome, urls.length ≤ id → (p.execute (.report id outcome)).2 = p := by
  intro p h
  have hp : p.Follows chain urls quarantine h := (follows_ofUrls hpool start).run commands
  obtain ⟨q, -, hacquire⟩ := hp.acquire
  rw [hacquire]
  refine ⟨?_, ?_, ?_, fun id outcome hid => ?_⟩
  · cases h.next? quarantine p.now (Endpoint.ofUrls chain urls) <;> rfl
  · rw [← PoolHistory.next?_eq_none_iff chain]
    cases h.next? quarantine p.now (Endpoint.ofUrls chain urls) <;> simp
  · rw [EndpointPool.endpoints, hp.chain_eq, hp.urls_eq]
  · have hslot : p.pool.slots[id]? = none := by
      rw [← hp.urls_eq, EndpointPool.urls, List.length_map] at hid
      exact List.getElem?_eq_none hid
    exact congrArg (TimedPool.mk · p.now) (EndpointPool.report_of_unknown hslot p.now outcome)

def threeNodes : EndpointPool where
  chain := .parachain
  quarantine := 60000
  slots := ["a", "b", "c"].map fun url => ⟨url, .healthy⟩
  cursor := 0
  cursor_lt := by decide
  published := none

/-- The first node is passed over while its quarantine lasts, and its turn comes when it ends. -/
theorem acquire_eq_of_history_threeNodes :
    EndpointPool.ofUrls .parachain ["a", "b", "c"] 60000 = .ok threeNodes ∧
      let failing : List PoolCommand :=
        [.acquire, .report 0 .failure, .acquire, .acquire, .advance 59999]
      ((run ⟨threeNodes, 7⟩ failing).execute .acquire).1 = some (.ok ⟨1, "b", .parachain⟩) ∧
      ((run ⟨threeNodes, 7⟩ (failing ++ [.advance 1])).execute .acquire).1
        = some (.ok ⟨0, "a", .parachain⟩) := by
  have hnew : EndpointPool.ofUrls .parachain ["a", "b", "c"] 60000 = .ok threeNodes := rfl
  refine ⟨hnew, ?_, ?_⟩
  · exact (acquire_eq_of_history hnew 7 _).1.trans (by decide)
  · exact (acquire_eq_of_history hnew 7 _).1.trans (by decide)

end TimedPool

end StakingIndexer
