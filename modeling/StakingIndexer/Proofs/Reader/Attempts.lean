import Mathlib
import StakingIndexer.Proofs.Endpoint.Slots
import StakingIndexer.Reader.Basic

/-!
# What a call leaves behind

A call is a list of attempts, each on the endpoint that the pool hands out, and each met by that
endpoint in one of six ways. Three of them end the call; the others put the endpoint into
quarantine, drop its connection and lead to the next attempt. So the answer of a call is told by
the attempts alone, and the mark and the connection of an endpoint by the last of them that was
made on it.
-/

namespace StakingIndexer

/-- How an endpoint meets an attempt: there is no connection and none is made, or the call
is answered, fails or does not end in time. -/
inductive Encounter (α : Type) where
  | unreached (detail : String)
  | answered (value : α)
  | rangeTooLarge (detail : String)
  | unreadable (detail : String)
  | broken (detail : String)
  | hung

namespace Encounter

variable {α : Type}

def verdict? (chain : Chain) : Encounter α → Option (Except ReadError α)
  | answered value => some (.ok value)
  | rangeTooLarge detail => some (.error (.rangeTooLarge chain detail))
  | unreadable detail => some (.error (.decode detail))
  | unreached _ | broken _ | hung => none

def failed : Encounter α → Bool
  | unreached _ | broken _ | hung => true
  | answered _ | rangeTooLarge _ | unreadable _ => false

/-- What is noted about an attempt that leads to the next one; nothing about the others. -/
def noted (op : String) (config : ReaderConfig) : Encounter α → ChainReader.LastAttempt
  | unreached detail | broken detail => ⟨detail, false⟩
  | hung => ⟨op ++ " timed out after " ++ ChainReader.secondsText config.callTimeout ++ "s", true⟩
  | answered _ | rangeTooLarge _ | unreadable _ => ⟨"", false⟩

theorem timedOut_noted_iff (op : String) (config : ReaderConfig) (encounter : Encounter α) :
    (encounter.noted op config).timedOut = true ↔ encounter = hung := by
  cases encounter <;> simp [noted]

theorem verdict?_eq_none_iff (chain : Chain) (encounter : Encounter α) :
    encounter.verdict? chain = none ↔ encounter.failed = true := by
  cases encounter <;> simp [failed, verdict?]

end Encounter

/-- Call an endpoint through its connection, or through a new one. -/
def Access.meet {σ α : Type} (a : Access σ α) (connected : Bool) (e : Endpoint) (s : σ) :
    Encounter α × σ :=
  match if connected then (.ok (), s) else a.connect e s with
  | (.error (.failed error), s) => (.unreached error.message, s)
  | (.error .hung, s) =>
    (.unreached (CallError.message (.transport ("connecting to " ++ e.url ++ " timed out"))), s)
  | (.ok (), s) =>
    match a.call e s with
    | (.ok value, s) => (.answered value, s)
    | (.error (.failed (.rangeTooLarge detail)), s) => (.rangeTooLarge detail, s)
    | (.error (.failed (.decode detail)), s) => (.unreadable detail, s)
    | (.error (.failed (.transport detail)), s) => (.broken detail, s)
    | (.error .hung, s) => (.hung, s)

/-- An attempt on an endpoint, with the instants at which the pool was asked for it and at which
it ended. -/
structure Trial (α : Type) where
  endpoint : Endpoint
  asked : Nat
  encounter : Encounter α
  ended : Nat

namespace Trial

variable {α : Type}

def health (quarantine id : Nat) (health : Health) (t : Trial α) : Health :=
  if t.endpoint.id = id then
    if t.encounter.failed then .quarantined (t.ended + quarantine) else .healthy
  else health.lifted [t.asked]

def connected (id : Nat) (connected : Bool) (t : Trial α) : Bool :=
  if t.endpoint.id = id then !t.encounter.failed else connected

variable {id : Nat} {ts : List (Trial α)} (h : ∀ t ∈ ts, t.endpoint.id ≠ id)
include h

theorem foldl_health_of_apart (quarantine : Nat) (before : Health) :
    ts.foldl (health quarantine id) before = before.lifted (ts.map (·.asked)) := by
  induction ts generalizing before with
  | nil => simp
  | cons t ts ih =>
    rw [List.forall_mem_cons] at h
    rw [List.foldl_cons, ih h.2, health, if_neg h.1, ← Health.lifted_append]
    rfl

theorem foldl_connected_of_apart (before : Bool) :
    ts.foldl (connected id) before = before := by
  induction ts with
  | nil => rfl
  | cons t ts ih =>
    rw [List.forall_mem_cons] at h
    rw [List.foldl_cons, connected, if_neg h.1, ih h.2]

end Trial

namespace ChainReader

variable {σ α : Type}

/-- The attempts of a call, and the outside behind them. -/
def tried (a : Access σ α) : (left : Nat) → ChainReader → σ → List (Trial α) × σ
  | 0, _, s => ([], s)
  | left + 1, r, s =>
    match r.pool.acquire (a.now s) with
    | (.error _, _) => ([], s)
    | (.ok e, pool) =>
      let (encounter, t) := a.meet (r.connected.contains e.id) e s
      let trial : Trial α := ⟨e, a.now s, encounter, a.now t⟩
      if encounter.failed then
        let (later, outside) := tried a left (fail { r with pool } (a.now t) e) t
        (trial :: later, outside)
      else ([trial], t)

def keeping (r : ChainReader) (id : Nat) : ChainReader :=
  if r.connected.contains id then r else { r with connected := id :: r.connected }

theorem fail_keeping (r : ChainReader) (now : Nat) (e : Endpoint) :
    (r.keeping e.id).fail now e = r.fail now e := by
  unfold keeping
  split_ifs
  · rfl
  · simp [fail]

theorem succeed_keeping {r : ChainReader} {e : Endpoint}
    (h : r.pool.health? e.id = some .healthy) (now : Nat) :
    (r.keeping e.id).succeed now e = r.keeping e.id := by
  have hpool : (r.keeping e.id).pool = r.pool := by unfold keeping; split_ifs <;> rfl
  rw [succeed, hpool, EndpointPool.report_success_of_healthy h, ← hpool]

/-- An attempt on an endpoint that was handed out is settled by how that endpoint meets it. -/
theorem attempt_eq (a : Access σ α) (op : String) {r : ChainReader} {e : Endpoint}
    (h : r.pool.health? e.id = some .healthy) (s : σ) :
    attempt a op r e s =
      let (encounter, t) := a.meet (r.connected.contains e.id) e s
      match encounter.verdict? r.chain with
      | some (.ok value) => (.answered value, r.keeping e.id, t)
      | some (.error error) => (.refused error, r.keeping e.id, t)
      | none => (.again (encounter.noted op r.config), r.fail (a.now t) e, t) := by
  have hchain : (r.keeping e.id).chain = r.chain := by unfold keeping; split_ifs <;> rfl
  have hconfig : (r.keeping e.id).config = r.config := by unfold keeping; split_ifs <;> rfl
  have hconnect : connectTo a r e s =
      match (if r.connected.contains e.id then (.ok (), s) else a.connect e s) with
      | (.ok (), t) => (.ok (r.keeping e.id), t)
      | (.error (.failed error), t) => (.error error, t)
      | (.error .hung, t) =>
        (.error (.transport ("connecting to " ++ e.url ++ " timed out")), t) := by
    unfold connectTo keeping
    split_ifs
    · rfl
    · rcases a.connect e s with ⟨(error | _) | _, t⟩ <;> rfl
  -- an endpoint that answers is still healthy, so that the report of its success is void
  unfold attempt Access.meet
  rw [hconnect]
  generalize (if r.connected.contains e.id then (.ok (), s) else a.connect e s) = x
  obtain ⟨(error | _) | _, t⟩ := x
  · rfl
  · rfl
  · dsimp only
    rcases a.call e t with ⟨((detail | detail | detail) | _) | value, u⟩
    · exact congrArg (fun r' => (_, r', u)) (fail_keeping r (a.now u) e)
    · dsimp only
      rw [hchain, succeed_keeping h]
      rfl
    · rfl
    · dsimp only
      rw [hconfig, fail_keeping]
      rfl
    · exact congrArg (fun r' => (_, r', u)) (succeed_keeping h (a.now u))

/-- What attempts make of a reader. -/
structure Leaves (r : ChainReader) (ts : List (Trial α)) (r' : ChainReader) : Prop where
  config : r'.config = r.config
  pool : r.pool.Alike r'.pool
  connected : ∀ id, r'.connected.contains id
    = ts.foldl (Trial.connected id) (r.connected.contains id)
  health : ∀ id, r'.pool.health? id
    = (r.pool.health? id).map fun health => ts.foldl (Trial.health r.pool.quarantine id) health

theorem Leaves.trans {r r' r'' : ChainReader} {ts later : List (Trial α)}
    (h : Leaves r ts r') (h' : Leaves r' later r'') : Leaves r (ts ++ later) r'' where
  config := h'.config.trans h.config
  pool := h.pool.trans h'.pool
  connected id := by rw [h'.connected, h.connected, List.foldl_append]
  health id := by
    rw [h'.health, h.health, Option.map_map, h.pool.quarantine]
    simp only [Function.comp_def, List.foldl_append]

/-- An endpoint that no attempt is made on keeps its connection, and its health apart from a
quarantine that is over. -/
theorem Leaves.apart {r r' : ChainReader} {ts : List (Trial α)} (h : Leaves r ts r') {id : Nat}
    (hapart : ∀ t ∈ ts, t.endpoint.id ≠ id) :
    (id ∈ r'.connected ↔ id ∈ r.connected) ∧
      r'.pool.health? id = (r.pool.health? id).map (·.lifted (ts.map (·.asked))) := by
  have hconnected := h.connected id
  rw [Trial.foldl_connected_of_apart hapart] at hconnected
  refine ⟨?_, ?_⟩
  · rw [← List.contains_iff_mem, ← List.contains_iff_mem, hconnected]
  · rw [h.health]
    simp only [Trial.foldl_health_of_apart hapart]

/-- The last attempt on an endpoint decides on its connection and its mark. -/
theorem Leaves.behind {r r' : ChainReader} {before after : List (Trial α)} {t : Trial α}
    (h : Leaves r (before ++ t :: after) r') (hmem : t.endpoint ∈ r.pool.endpoints)
    (hapart : ∀ u ∈ after, u.endpoint.id ≠ t.endpoint.id) :
    (t.endpoint.id ∈ r'.connected ↔ t.encounter.failed = false) ∧
      r'.pool.health? t.endpoint.id = some
        ((if t.encounter.failed then Health.quarantined (t.ended + r.pool.quarantine)
          else .healthy).lifted (after.map (·.asked))) := by
  obtain ⟨health, hhealth⟩ := EndpointPool.exists_health hmem
  have hconnected := h.connected t.endpoint.id
  rw [List.foldl_append, List.foldl_cons, Trial.foldl_connected_of_apart hapart, Trial.connected,
    if_pos rfl] at hconnected
  refine ⟨?_, ?_⟩
  · rw [← List.contains_iff_mem, hconnected, Bool.not_eq_true']
  · rw [h.health, hhealth, Option.map_some, List.foldl_append, List.foldl_cons,
      Trial.foldl_health_of_apart hapart, Trial.health, if_pos rfl]

variable {r : ChainReader} {pool : EndpointPool} {e : Endpoint} {asked ended : Nat}
  {encounter : Encounter α}

theorem leaves_fail (hacquire : r.pool.acquire asked = (.ok e, pool))
    (hfailed : encounter.failed = true) :
    Leaves r [⟨e, asked, encounter, ended⟩] (fail { r with pool } ended e) := by
  obtain ⟨halike, -, -, hhealth⟩ := EndpointPool.acquire_ok hacquire
  refine ⟨rfl, halike.trans (pool.alike_report ended e.id .failure), fun id => ?_, fun id => ?_⟩
  · by_cases hid : e.id = id
    · simp [fail, Trial.connected, hid, hfailed]
    · simp [fail, Trial.connected, hid, Ne.symm hid]
  · change (pool.report ended e.id .failure).health? id = _
    rw [EndpointPool.health?_report, hhealth, Option.map_map, halike.quarantine]
    by_cases hid : e.id = id <;>
      simp [Function.comp_def, Trial.health, hid, hfailed]

theorem leaves_keeping (hacquire : r.pool.acquire asked = (.ok e, pool))
    (hfailed : encounter.failed = false) :
    Leaves r [⟨e, asked, encounter, ended⟩] (keeping { r with pool } e.id) := by
  obtain ⟨halike, -, hhealthy, hhealth⟩ := EndpointPool.acquire_ok hacquire
  have hpool : (keeping { r with pool } e.id).pool = pool := by unfold keeping; split_ifs <;> rfl
  have hconfig : (keeping { r with pool } e.id).config = r.config := by
    unfold keeping
    split_ifs <;> rfl
  refine ⟨hconfig, hpool.symm ▸ halike, fun id => ?_, fun id => ?_⟩
  · unfold keeping
    by_cases hid : e.id = id
    · subst hid
      split_ifs with hconnected
      · simpa [Trial.connected, hfailed] using hconnected
      · simp [Trial.connected, hfailed]
    · split_ifs
      · simp [Trial.connected, hid]
      · simp [Trial.connected, hid, Ne.symm hid]
  · rw [hpool]
    by_cases hid : e.id = id
    · subst hid
      rw [hhealthy]
      rw [hhealth] at hhealthy
      obtain ⟨health, hbefore, -⟩ := Option.map_eq_some_iff.1 hhealthy
      simp [hbefore, Trial.health, hfailed]
    · rw [hhealth]
      simp [Trial.health, hid]

/-- How a chain is reported as unavailable behind `made` attempts and some more, of which no more
than `left` were allowed. The pool has ended a call of fewer attempts. -/
def unavailable (chain : Chain) (op : String) (config : ReaderConfig) (left made : Nat)
    (last : LastAttempt) (ts : List (Trial α)) : ReadError :=
  let last := (ts.getLast?.map (·.encounter.noted op config)).getD last
  .unavailable chain (made + ts.length)
    (if ts.length < left then (EndpointPoolError.exhausted chain).message else last.error)
    last.timedOut

/-- What attempts come to: their answer, the reader and the outside behind them. -/
structure Settles (a : Access σ α) (op : String) (left made : Nat) (last : LastAttempt)
    (r : ChainReader) (ts : List (Trial α)) (result : Except ReadError α × ChainReader × σ) :
    Prop where
  bounded : ts.length ≤ left
  within : ∀ t ∈ ts, t.endpoint ∈ r.pool.endpoints
  failing : ∀ t ∈ ts.dropLast, t.encounter.failed = true
  answer : result.1 = (ts.findSome? (·.encounter.verdict? r.chain)).getD
    (.error (unavailable r.chain op r.config left made last ts))
  leaves : Leaves r ts result.2.1
  exhausted : (ts.findSome? (·.encounter.verdict? r.chain)) = none → ts.length < left →
    ∀ slot ∈ result.2.1.pool.slots, ¬ slot.Available (a.now result.2.2)

variable {a : Access σ α} {op : String} {left made : Nat} {last : LastAttempt} {s : σ}

theorem settles_exhausted {error : EndpointPoolError}
    (hacquire : r.pool.acquire (a.now s) = (.error error, pool)) :
    Settles a op (left + 1) made last r []
      (.error (.unavailable r.chain made error.message last.timedOut), { r with pool }, s) := by
  obtain ⟨rfl, halike, hslots, hnone⟩ := EndpointPool.acquire_error hacquire
  refine ⟨Nat.zero_le _, by simp, by simp, rfl, ?_, fun _ _ => hslots.symm ▸ hnone⟩
  refine ⟨rfl, halike, fun _ => rfl, fun id => ?_⟩
  change pool.slots[id]?.map _ = _
  rw [hslots]
  simp [EndpointPool.health?, Function.comp_def]

theorem settles_decided (hacquire : r.pool.acquire asked = (.ok e, pool))
    {verdict : Except ReadError α} (hverdict : encounter.verdict? r.chain = some verdict) :
    Settles a op (left + 1) made last r [⟨e, asked, encounter, ended⟩]
      (verdict, keeping { r with pool } e.id, s) := by
  have hfailed : encounter.failed = false := by
    rw [← Bool.not_eq_true, ← encounter.verdict?_eq_none_iff r.chain, hverdict]
    exact Option.some_ne_none verdict
  have hfound : [(⟨e, asked, encounter, ended⟩ : Trial α)].findSome?
      (·.encounter.verdict? r.chain) = some verdict := by simp [hverdict]
  refine ⟨by simp, ?_, by simp, by rw [hfound]; rfl, leaves_keeping hacquire hfailed, ?_⟩
  · simpa using (EndpointPool.acquire_ok hacquire).2.1
  · intro hnone
    rw [hfound] at hnone
    cases hnone

theorem settles_again (hacquire : r.pool.acquire asked = (.ok e, pool))
    (hfailed : encounter.failed = true) {ts : List (Trial α)}
    {result : Except ReadError α × ChainReader × σ}
    (h : Settles a op left (made + 1) (encounter.noted op r.config)
      (fail { r with pool } ended e) ts result) :
    Settles a op (left + 1) made last r (⟨e, asked, encounter, ended⟩ :: ts) result := by
  have hleaves : Leaves r [⟨e, asked, encounter, ended⟩] (fail { r with pool } ended e) :=
    leaves_fail hacquire hfailed
  have hverdict := (encounter.verdict?_eq_none_iff r.chain).2 hfailed
  have hchain : (fail { r with pool } ended e).chain = r.chain := hleaves.pool.chain
  have hfound : (⟨e, asked, encounter, ended⟩ :: ts).findSome?
      (fun t : Trial α => t.encounter.verdict? r.chain)
        = ts.findSome? fun t => t.encounter.verdict? r.chain := by
    rw [List.findSome?_cons]
    simp only [hverdict]
  obtain ⟨hbounded, hwithin, hfailing, hanswer, hlater, hexhausted⟩ := h
  rw [hchain] at hanswer hexhausted
  refine ⟨?_, ?_, ?_, ?_, hleaves.trans hlater, ?_⟩
  · simpa using hbounded
  · rw [hleaves.pool.endpoints] at hwithin
    simpa using ⟨(EndpointPool.acquire_ok hacquire).2.1, hwithin⟩
  · cases ts with
    | nil => simp
    | cons t ts => simpa [List.dropLast] using ⟨hfailed, hfailing⟩
  · have hunavailable : unavailable r.chain op r.config left (made + 1)
        (encounter.noted op r.config) ts = unavailable r.chain op r.config (left + 1) made last
          (⟨e, asked, encounter, ended⟩ :: ts) := by
      unfold unavailable
      rw [List.getLast?_cons, List.length_cons]
      cases ts.getLast? <;> simp [Nat.add_assoc, Nat.add_comm 1]
    rw [hanswer, hfound, ← hunavailable]
    rfl
  · intro hnone hlt
    rw [hfound] at hnone
    exact hexhausted hnone (by simpa using hlt)

/-- The attempts of a call settle it, and the call leaves the outside as they do. -/
theorem attempts_settle (a : Access σ α) (op : String) (left made : Nat) (last : LastAttempt)
    (r : ChainReader) (s : σ) :
    Settles a op left made last r (tried a left r s).1 (attempts a op left made last r s) ∧
      (attempts a op left made last r s).2.2 = (tried a left r s).2 := by
  induction left generalizing made last r s with
  | zero =>
    refine ⟨⟨Nat.le_refl 0, by simp [tried], by simp [tried], rfl, ?_, ?_⟩, rfl⟩
    · exact ⟨rfl, .refl _, fun _ => rfl, fun _ => by simp [tried, attempts]⟩
    · exact fun _ hlt => absurd hlt (Nat.lt_irrefl 0)
  | succ left ih =>
    unfold tried attempts
    rcases hacquire : r.pool.acquire (a.now s) with ⟨error | e, pool⟩
    · exact ⟨settles_exhausted hacquire, rfl⟩
    · obtain ⟨halike, -, hhealthy, -⟩ := EndpointPool.acquire_ok hacquire
      have hattempt := attempt_eq a op (r := { r with pool }) hhealthy s
      have hchain : chain { r with pool } = r.chain := halike.chain
      rw [hchain] at hattempt
      dsimp only at hattempt ⊢
      rw [hattempt]
      rcases a.meet (r.connected.contains e.id) e s with ⟨encounter, t⟩
      dsimp only
      cases hverdict : encounter.verdict? r.chain with
      | none =>
        -- the rest of the call starts from what this attempt has left
        have hfailed := (encounter.verdict?_eq_none_iff r.chain).1 hverdict
        obtain ⟨hsettles, houtside⟩ := ih (made + 1) (encounter.noted op r.config)
          (fail { r with pool } (a.now t) e) t
        rw [if_pos hfailed]
        exact ⟨settles_again hacquire hfailed hsettles, houtside⟩
      | some verdict =>
        have hfailed : ¬ encounter.failed = true := by
          rw [← encounter.verdict?_eq_none_iff r.chain, hverdict]
          exact Option.some_ne_none verdict
        rw [if_neg hfailed]
        cases verdict with
        | ok value => exact ⟨settles_decided hacquire hverdict, rfl⟩
        | error error => exact ⟨settles_decided hacquire hverdict, rfl⟩

/-- What a call returns and leaves behind, told by its attempts. There are at most as many as the
limit. All but the last have failed, and the first that has not decides what is returned; where all
have failed, the chain is unavailable, and the call has timed out just when the last attempt has.
An endpoint whose last attempt has failed has no connection, and it is in quarantine since the end
of that attempt, unless the pool was asked again when the quarantine was over. The endpoint that
has decided has a connection and is healthy. The others keep what they had, apart from quarantines
that are over. -/
theorem withClient_exact {r' : ChainReader} {s' outside : σ} {ts : List (Trial α)}
    {answer : Except ReadError α} (htried : tried a r.attemptLimit r s = (ts, outside))
    (hcall : withClient a op r s = (answer, r', s')) :
    (s' = outside ∧ ts.length ≤ max (r.config.maxAttempts.getD (r.pool.size + 1)) 1 ∧
      (∀ t ∈ ts, t.endpoint ∈ r.pool.endpoints) ∧
      ∀ t ∈ ts.dropLast, t.encounter.failed = true) ∧
    (∃ (lastError : String) (timedOut : Bool),
      answer = (ts.findSome? fun t => t.encounter.verdict? r.chain).getD
        (.error (.unavailable r.chain ts.length lastError timedOut)) ∧
      (timedOut = true ↔ ∃ t, ts.getLast? = some t ∧ t.encounter = .hung) ∧
      lastError = if ts.length < r.attemptLimit
        then (EndpointPoolError.exhausted r.chain).message
        else (ts.getLast?.map fun t => (t.encounter.noted op r.config).error).getD
          "no attempt made") ∧
    ((ts.findSome? fun t => t.encounter.verdict? r.chain) = none → ts.length < r.attemptLimit →
      ∀ slot ∈ r'.pool.slots, ¬ slot.Available (a.now s')) ∧
    (r'.config = r.config ∧ r.pool.Alike r'.pool) ∧
    (∀ before t after, ts = before ++ t :: after →
      (∀ u ∈ after, u.endpoint.id ≠ t.endpoint.id) → t.encounter.failed = true →
        t.endpoint.id ∉ r'.connected ∧ r'.pool.health? t.endpoint.id = some
          ((Health.quarantined (t.ended + r.pool.quarantine)).lifted (after.map (·.asked)))) ∧
    (∀ t ∈ ts, t.encounter.failed = false →
      t.endpoint.id ∈ r'.connected ∧ r'.pool.health? t.endpoint.id = some .healthy) ∧
    (∀ id, (∀ t ∈ ts, t.endpoint.id ≠ id) →
      (id ∈ r'.connected ↔ id ∈ r.connected) ∧
        r'.pool.health? id = (r.pool.health? id).map (·.lifted (ts.map (·.asked)))) := by
  obtain ⟨hsettles, houtside⟩ :=
    attempts_settle a op r.attemptLimit 0 ⟨"no attempt made", false⟩ r s
  change attempts a op r.attemptLimit 0 ⟨"no attempt made", false⟩ r s = _ at hcall
  rw [htried, hcall] at hsettles houtside
  obtain ⟨hbounded, hwithin, hfailing, hanswer, hleaves, hexhausted⟩ := hsettles
  dsimp only at hanswer hleaves hexhausted houtside
  refine ⟨⟨houtside, hbounded, hwithin, hfailing⟩, ?_, hexhausted, ⟨hleaves.config, hleaves.pool⟩,
    ?_, ?_, fun id hapart => hleaves.apart hapart⟩
  · rw [unavailable, Nat.zero_add] at hanswer
    refine ⟨_, _, hanswer, ?_, ?_⟩
    · cases ts.getLast? <;> simp [Encounter.timedOut_noted_iff]
    · cases ts.getLast? <;> rfl
  · rintro before t after rfl hapart hfailed
    obtain ⟨hconnected, hhealth⟩ := hleaves.behind (hwithin t (by simp)) hapart
    rw [hfailed] at hconnected hhealth
    exact ⟨fun h => by simpa using hconnected.1 h, hhealth⟩
  · intro t ht hdecided
    -- the attempt that decides is the last one
    have hne : ts ≠ [] := List.ne_nil_of_mem ht
    have hsplit := List.dropLast_append_getLast hne
    have hlast : t = ts.getLast hne := by
      rw [← hsplit, List.mem_append, List.mem_singleton] at ht
      rcases ht with h | h
      · rw [hfailing t h] at hdecided
        cases hdecided
      · exact h
    rw [← hsplit, ← hlast] at hleaves
    obtain ⟨hconnected, hhealth⟩ := hleaves.behind (hwithin t (hlast ▸ List.getLast_mem hne))
      (by simp)
    rw [hdecided] at hhealth
    exact ⟨hconnected.2 hdecided, hhealth⟩

/-- Nodes of which the first does not answer before the instant 1000 and then asks for less, the
second refuses connections, and the third breaks its own. -/
def unsteadyNodes : Access Nat UInt64 where
  now t := t
  connect e t := (if e.id = 1 then .error (.failed (.transport "refused")) else .ok (), t + 10)
  call e t :=
    if e.id = 2 then (.error (.failed (.transport "reset")), t + 20)
    else if t < 1000 then (.error .hung, t + 5000)
    else (.error (.failed (.rangeTooLarge "too many results")), t + 20)

/-- A reader of these nodes and of a fourth in a long quarantine, with connections to the last two;
other quarantines take 25 milliseconds. -/
def unsteadyReader : ChainReader where
  pool :=
    { chain := .parachain
      quarantine := 25
      slots := [⟨"a", .healthy⟩, ⟨"b", .healthy⟩, ⟨"c", .quarantined 70⟩, ⟨"d", .quarantined 9000⟩]
      cursor := 0
      cursor_lt := by decide
      published := none }
  connected := [2, 3]
  config := ⟨5000, none, 2500⟩

/-- The first node is asked again when its quarantine is over, and decides. -/
def unsteadyTrials : List (Trial UInt64) :=
  [⟨⟨0, "a", .parachain⟩, 100, .hung, 5110⟩,
    ⟨⟨1, "b", .parachain⟩, 5110, .unreached ("transport error: " ++ "refused"), 5120⟩,
    ⟨⟨2, "c", .parachain⟩, 5120, .broken "reset", 5140⟩,
    ⟨⟨0, "a", .parachain⟩, 5140, .rangeTooLarge "too many results", 5170⟩]

theorem withClient_exact_unsteadyNodes :
    tried unsteadyNodes unsteadyReader.attemptLimit unsteadyReader 100 = (unsteadyTrials, 5170) ∧
      ∃ answer r' s',
        withClient unsteadyNodes "logs_in_range" unsteadyReader 100 = (answer, r', s') ∧
        answer = .error (.rangeTooLarge .parachain "too many results") ∧
        (0 ∈ r'.connected ∧ r'.pool.health? 0 = some .healthy) ∧
        (1 ∉ r'.connected ∧ r'.pool.health? 1 = some (.quarantined 5145)) ∧
        (2 ∉ r'.connected ∧ r'.pool.health? 2 = some (.quarantined 5165)) ∧
        3 ∈ r'.connected ∧ r'.pool.health? 3 = some (.quarantined 9000) := by
  have htried : tried unsteadyNodes unsteadyReader.attemptLimit unsteadyReader 100
      = (unsteadyTrials, 5170) := rfl
  refine ⟨htried, ?_⟩
  rcases hcall : withClient unsteadyNodes "logs_in_range" unsteadyReader 100 with ⟨answer, r', s'⟩
  obtain ⟨-, ⟨lastError, timedOut, hanswer, -⟩, -, -, hfailed, hdecided, hapart⟩ :=
    withClient_exact htried hcall
  refine ⟨answer, r', s', rfl, hanswer, ?_, ?_, ?_, ?_⟩
  · exact hdecided unsteadyTrials[3] (by simp [unsteadyTrials]) rfl
  · exact hfailed [unsteadyTrials[0]] unsteadyTrials[1] [unsteadyTrials[2], unsteadyTrials[3]] rfl
      (by simp [unsteadyTrials]) rfl
  · exact hfailed [unsteadyTrials[0], unsteadyTrials[1]] unsteadyTrials[2] [unsteadyTrials[3]] rfl
      (by simp [unsteadyTrials]) rfl
  · obtain ⟨hconnected, hhealth⟩ := hapart 3 (by simp [unsteadyTrials])
    exact ⟨hconnected.2 (by simp [unsteadyReader]), hhealth⟩

end ChainReader
end StakingIndexer
