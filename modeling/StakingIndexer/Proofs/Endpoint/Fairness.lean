import Mathlib
import StakingIndexer.Proofs.Endpoint.Rotation

/-!
# Every healthy endpoint has its turn

An endpoint that may be handed out awaits its turn, and each search that hands out another one
brings it closer, whatever is reported about the others. While nothing is reported at all, the
healthy endpoints form a queue: the first one is handed out and goes to the end.
-/

namespace StakingIndexer

namespace PoolCommand

def isAcquire : PoolCommand → Bool
  | acquire => true
  | _ => false

def isReport : PoolCommand → Bool
  | report _ _ => true
  | _ => false

end PoolCommand

namespace PoolSlot

theorem Available.later {now instant : Nat} {s : PoolSlot} (h : s.Available now)
    (hle : now ≤ instant) : s.Available instant := by
  rcases h with hhealthy | ⟨expiry, hover, hquarantined⟩
  · exact .inl hhealthy
  · exact .inr ⟨expiry, hover.trans hle, hquarantined⟩

/-- A slot that does not leave its quarantine up to an instant, if it is in one. -/
def Stays (instant : Nat) (s : PoolSlot) : Prop :=
  ∀ expiry, s.health = .quarantined expiry → instant < expiry

theorem Stays.earlier {now instant : Nat} {s : PoolSlot} (h : s.Stays instant)
    (hle : now ≤ instant) : s.Stays now :=
  fun expiry hquarantined => hle.trans_lt (h expiry hquarantined)

theorem Stays.promote_eq {now : Nat} {s : PoolSlot} (h : s.Stays now) : s.promote now = s := by
  unfold promote
  split
  next expiry hquarantined => rw [if_neg (Nat.not_le.2 (h expiry hquarantined))]
  next => rfl

end PoolSlot

namespace EndpointPool

variable {p : EndpointPool} {now id k : Nat}

theorem Awaits.later (h : p.Awaits now id k) {instant : Nat} (hle : now ≤ instant) :
    p.Awaits instant id k := by
  obtain ⟨slot, hslot, havailable⟩ := h.available
  exact ⟨⟨slot, hslot, havailable.later hle⟩, h.ahead, h.lt_size⟩

theorem Awaits.success (h : p.Awaits now id k) (instant : Nat) :
    (p.report instant id .success).Awaits now id k := by
  obtain ⟨⟨-, -, hurls, hcursor⟩, hslots⟩ := p.report_eq instant id .success
  have hsize : (p.report instant id .success).size = p.size := by
    have hlength := congrArg List.length hurls
    simpa only [urls, List.length_map, size] using hlength
  have hid : id < (p.report instant id .success).slots.length := by
    obtain ⟨slot, hslot, -⟩ := h.available
    rw [← size, hsize, size]
    exact (List.getElem?_eq_some_iff.1 hslot).1
  have hfound := List.getElem?_eq_getElem hid
  refine ⟨⟨_, hfound, ?_⟩, ?_, hsize ▸ h.lt_size⟩
  · obtain ⟨-, hhealth⟩ | ⟨hne, -⟩ := hslots id _ hfound
    · exact .inl hhealth
    · exact absurd rfl hne
  · rw [hcursor, hsize]
    exact h.ahead

theorem Awaits.reported (h : p.Awaits now id k) {other : Nat} {outcome : CallOutcome}
    (hreport : ¬ (other = id ∧ outcome = .failure)) (instant : Nat) :
    (p.report instant other outcome).Awaits now id k := by
  by_cases hother : other = id
  · subst hother
    cases outcome with
    | success => exact h.success instant
    | failure => exact absurd ⟨rfl, rfl⟩ hreport
  · exact h.report hother instant outcome

variable (p)

def healthyAt (id : Nat) : Bool := p.slots[id]?.any (·.isHealthy)

/-- The healthy endpoints in the order of the search. -/
def queue : List Endpoint := (p.endpoints.rotate p.cursor).filter fun e => p.healthyAt e.id

variable {p}

theorem length_endpoints (p : EndpointPool) : p.endpoints.length = p.size := by
  rw [endpoints, Endpoint.length_ofUrls, urls, List.length_map, size]

theorem id_of_getElem? {i : Nat} {e : Endpoint} (h : p.endpoints[i]? = some e) : e.id = i := by
  rw [endpoints, Endpoint.getElem?_ofUrls, Option.map_eq_some_iff] at h
  obtain ⟨url, -, rfl⟩ := h
  rfl

theorem map_id_endpoints (p : EndpointPool) : p.endpoints.map (·.id) = List.range p.size := by
  apply List.ext_getElem
  · simp [length_endpoints]
  · intro i hi hi'
    rw [List.getElem_map, List.getElem_range]
    exact id_of_getElem? (List.getElem?_eq_getElem _)

theorem nodup_queue (p : EndpointPool) : (p.queue.map (·.id)).Nodup := by
  have hrotated : ((p.endpoints.rotate p.cursor).map (·.id)).Nodup := by
    rw [List.map_rotate, map_id_endpoints]
    exact List.nodup_rotate.2 List.nodup_range
  exact hrotated.sublist (List.filter_sublist.map _)

theorem length_queue (p : EndpointPool) : p.queue.length = p.healthyCount := by
  have hperm := ((p.endpoints.rotate_perm p.cursor).filter fun e => p.healthyAt e.id).length_eq
  have hslots : p.endpoints.countP (fun e => p.healthyAt e.id)
      = (List.range p.size).countP p.healthyAt := by
    rw [← map_id_endpoints, List.countP_map]
    rfl
  have hentries : (List.range p.size).countP p.healthyAt = p.slots.countP (·.isHealthy) := by
    have hmap : (List.range p.size).map (p.slots[·]?) = p.slots.map some := by
      apply List.ext_getElem
      · simp [size]
      · intro i hi hi'
        simp at hi'
        simp [hi']
    calc (List.range p.size).countP p.healthyAt
        = ((List.range p.size).map (p.slots[·]?)).countP (·.any (·.isHealthy)) := by
          rw [List.countP_map]
          rfl
      _ = p.slots.countP (·.isHealthy) := by
          rw [hmap, List.countP_map]
          rfl
  rw [queue, hperm, ← List.countP_eq_length_filter, hslots, hentries, healthyCount]

/-- Behind an endpoint of a rotation the next rotation begins. -/
theorem rotate_behind {l m : List Endpoint} {e : Endpoint}
    (h : p.endpoints.rotate p.cursor = l ++ e :: m) :
    p.endpoints.rotate (e.id + 1) = m ++ l ++ [e] := by
  have hlength : (p.endpoints.rotate p.cursor).length = p.endpoints.length := List.length_rotate ..
  have hid : e.id = (l.length + p.cursor) % p.endpoints.length := by
    apply id_of_getElem?
    rw [← List.getElem?_rotate]
    · rw [h]
      simp
    · rw [← hlength, h]
      simp
  have hrotate : p.endpoints.rotate (e.id + 1)
      = (p.endpoints.rotate p.cursor).rotate (l.length + 1) := by
    rw [List.rotate_rotate, ← List.rotate_mod, ← p.endpoints.rotate_mod (p.cursor + _), hid,
      Nat.mod_add_mod]
    congr 2
    omega
  have hsplit : l ++ e :: m = (l ++ [e]) ++ m := by simp
  have hfront : l.length + 1 = (l ++ [e]).length := by simp
  rw [hrotate, h, hsplit, hfront, List.rotate_append_length_eq, List.append_assoc]

theorem queue_congr {q : EndpointPool} (hchain : q.chain = p.chain) (hslots : q.slots = p.slots)
    (hcursor : q.cursor = p.cursor) : q.queue = p.queue := by
  have hendpoints : q.endpoints = p.endpoints := by
    rw [endpoints, endpoints, urls, urls, hchain, hslots]
  have hhealthy : q.healthyAt = p.healthyAt := by
    funext id
    rw [healthyAt, healthyAt, hslots]
  rw [queue, queue, hendpoints, hcursor, hhealthy]

theorem next_eq_head?_queue (p : EndpointPool) :
    p.nextHealthy?.bind p.endpoint? = p.queue.head? := by
  have hhealthy : ∀ id slot, p.slots[id]? = some slot → slot.isHealthy = p.healthyAt id := by
    intro id slot hslot
    simp [healthyAt, hslot]
  rw [nextHealthy?_bind_endpoint? hhealthy, queue, List.head?_filter]

/-- An endpoint that is handed out goes to the end of the queue. -/
theorem queue_advanceTo {e : Endpoint} {rest : List Endpoint} (h : p.queue = e :: rest) :
    (p.advanceTo e.id).queue = rest ++ [e] := by
  -- the rotation up to the first healthy endpoint, and behind it
  obtain ⟨l, m, hsplit, hl, he, hm⟩ := List.filter_eq_cons_iff.1 h
  have hskipped : l.filter (fun e => p.healthyAt e.id) = [] := by
    rw [List.filter_eq_nil_iff]
    exact hl
  have hbehind : (p.advanceTo e.id).endpoints.rotate (p.advanceTo e.id).cursor = m ++ l ++ [e] := by
    have hmod := p.endpoints.rotate_mod (e.id + 1)
    rw [length_endpoints] at hmod
    change p.endpoints.rotate ((e.id + 1) % p.size) = _
    rw [hmod, rotate_behind hsplit]
  have hlast : [e].filter (fun e => p.healthyAt e.id) = [e] := List.filter_cons_of_pos he
  change ((p.advanceTo e.id).endpoints.rotate _).filter (fun e => p.healthyAt e.id) = _
  rw [hbehind, List.filter_append, List.filter_append, hskipped, hm, hlast, List.append_nil]

theorem slots_acquire (h : ∀ slot ∈ p.slots, slot.Stays now) :
    (p.acquire now).2.slots = p.slots := by
  obtain ⟨q, ⟨-, -, hslots, -⟩, hacquire⟩ := p.acquire_eq now
  have hkept : q.slots = p.slots := by
    rw [hslots]
    exact (List.map_congr_left fun slot hslot => (h slot hslot).promote_eq).trans (List.map_id _)
  rw [hacquire]
  cases q.nextHealthy?.bind q.endpoint? <;> exact hkept

/-- While no quarantine ends, the first endpoint of the queue is handed out. -/
theorem queue_acquire (h : ∀ slot ∈ p.slots, slot.Stays now) {e : Endpoint}
    {rest : List Endpoint} (hqueue : p.queue = e :: rest) :
    ∃ q, p.acquire now = (.ok e, q) ∧ q.queue = rest ++ [e] := by
  obtain ⟨q, ⟨hchain, -, hslots, hcursor⟩, hacquire⟩ := p.acquire_eq now
  have hkept : q.slots = p.slots := by
    rw [hslots]
    exact (List.map_congr_left fun slot hslot => (h slot hslot).promote_eq).trans (List.map_id _)
  have hsame : q.queue = e :: rest := (queue_congr hchain hkept hcursor).trans hqueue
  rw [next_eq_head?_queue, hsame, List.head?_cons] at hacquire
  exact ⟨_, hacquire, queue_advanceTo hsame⟩

end EndpointPool

namespace TimedPool

variable {p : TimedPool} {id k : Nat}

theorem now_le_run (p : TimedPool) (commands : List PoolCommand) :
    p.now ≤ (p.run commands).now := by
  induction commands generalizing p with
  | nil => exact Nat.le_refl _
  | cons c commands ih =>
    have hstep : p.now ≤ (p.execute c).2.now := by
      cases c with
      | advance milliseconds => exact Nat.le_add_right ..
      | _ => exact Nat.le_refl _
    exact hstep.trans (ih _)

theorem handedOut_cons (p : TimedPool) (c : PoolCommand) (commands : List PoolCommand) :
    (p.history (c :: commands)).handedOut
      = PoolHistory.handedOut [⟨p.now, c, (p.execute c).1⟩]
        ++ ((p.execute c).2.history commands).handedOut :=
  List.filterMap_append (l := [_])

/-- A slot that awaits its turn is handed out, or stays and is closer to its turn if another one
is handed out. -/
theorem awaits_execute (h : p.pool.Awaits p.now id k) {c : PoolCommand}
    (hc : c ≠ .report id .failure) :
    (∃ e ∈ PoolHistory.handedOut [⟨p.now, c, (p.execute c).1⟩], e.id = id) ∨
      ∃ k', (if c.isAcquire then k' < k else k' = k) ∧
        (p.execute c).2.pool.Awaits (p.execute c).2.now id k' := by
  cases c with
  | acquire =>
    obtain ⟨e, q, hacquire, -, -, hid | ⟨k', hk', hcloser⟩⟩ := h.acquire
    · refine .inl ⟨e, ?_, hid⟩
      simp [PoolHistory.handedOut, execute, hacquire]
    · refine .inr ⟨k', hk', ?_⟩
      simpa [execute, hacquire] using hcloser p.now
  | report other outcome =>
    have hreport : ¬ (other = id ∧ outcome = .failure) := by
      rintro ⟨rfl, rfl⟩
      exact hc rfl
    exact .inr ⟨k, rfl, h.reported hreport p.now⟩
  | advance milliseconds => exact .inr ⟨k, rfl, h.later (Nat.le_add_right ..)⟩
  | attachPublisher => exact .inr ⟨k, rfl, ⟨h.available, h.ahead, h.lt_size⟩⟩

/-- A slot that awaits its turn is handed out before more endpoints are than are ahead of it. -/
theorem handedOut_of_awaits (h : p.pool.Awaits p.now id k) {commands : List PoolCommand}
    (hfailure : .report id .failure ∉ commands) (hcount : k < commands.countP (·.isAcquire)) :
    ∃ e ∈ (p.history commands).handedOut, e.id = id := by
  induction commands generalizing p k with
  | nil => exact absurd hcount (Nat.not_lt_zero k)
  | cons c commands ih =>
    obtain ⟨hc, hrest⟩ := not_or.1 (mt List.mem_cons.2 hfailure)
    rw [handedOut_cons]
    obtain ⟨e, he, hid⟩ | ⟨k', hk', hawaits⟩ := awaits_execute h (Ne.symm hc)
    · exact ⟨e, List.mem_append_left _ he, hid⟩
    · have hleft : k' < commands.countP (·.isAcquire) := by
        rw [List.countP_cons] at hcount
        split_ifs at hk' hcount <;> omega
      obtain ⟨e, he, hid⟩ := ih hawaits hrest hleft
      exact ⟨e, List.mem_append_right _ he, hid⟩

/-- Nothing is reported to the pool, and no quarantine ends before the end of the commands. -/
structure Undisturbed (p : TimedPool) (commands : List PoolCommand) : Prop where
  unreported : ∀ c ∈ commands, c.isReport = false
  stays : ∀ slot ∈ p.pool.slots, slot.Stays (p.run commands).now

namespace Undisturbed

theorem left {before after : List PoolCommand} (h : p.Undisturbed (before ++ after)) :
    p.Undisturbed before := by
  refine ⟨fun c hc => h.unreported c (List.mem_append_left _ hc), fun slot hslot => ?_⟩
  have hstays := h.stays slot hslot
  rw [run, List.foldl_append] at hstays
  exact hstays.earlier (now_le_run _ _)

theorem stays_now {commands : List PoolCommand} (h : p.Undisturbed commands) :
    ∀ slot ∈ p.pool.slots, slot.Stays p.now :=
  fun slot hslot => (h.stays slot hslot).earlier (now_le_run _ _)

theorem slots_execute {c : PoolCommand} {commands : List PoolCommand}
    (h : p.Undisturbed (c :: commands)) : (p.execute c).2.pool.slots = p.pool.slots := by
  cases c with
  | acquire => exact EndpointPool.slots_acquire h.stays_now
  | report id outcome => exact absurd (h.unreported _ List.mem_cons_self) Bool.noConfusion
  | advance milliseconds => rfl
  | attachPublisher => rfl

theorem tail {c : PoolCommand} {commands : List PoolCommand}
    (h : p.Undisturbed (c :: commands)) : (p.execute c).2.Undisturbed commands := by
  refine ⟨fun d hd => h.unreported d (List.mem_cons_of_mem _ hd), ?_⟩
  rw [h.slots_execute]
  exact h.stays

theorem slots_run {commands : List PoolCommand} (h : p.Undisturbed commands) :
    (p.run commands).pool.slots = p.pool.slots := by
  induction commands generalizing p with
  | nil => rfl
  | cons c commands ih => exact (ih h.tail).trans h.slots_execute

theorem right {before after : List PoolCommand} (h : p.Undisturbed (before ++ after)) :
    (p.run before).Undisturbed after := by
  induction before generalizing p with
  | nil => exact h
  | cons c before ih => exact ih h.tail

/-- An undisturbed pool hands out its queue, as far as it is asked. -/
theorem handedOut_eq {commands : List PoolCommand} (h : p.Undisturbed commands)
    (hcount : commands.countP (·.isAcquire) ≤ p.pool.queue.length) :
    (p.history commands).handedOut = p.pool.queue.take (commands.countP (·.isAcquire)) := by
  induction commands generalizing p with
  | nil => rfl
  | cons c commands ih =>
    rw [handedOut_cons]
    cases c with
    | report id outcome => exact absurd (h.unreported _ List.mem_cons_self) Bool.noConfusion
    | advance milliseconds => exact ih h.tail hcount
    | attachPublisher => exact ih h.tail hcount
    | acquire =>
      have hsucc : (PoolCommand.acquire :: commands).countP (·.isAcquire)
          = commands.countP (·.isAcquire) + 1 := List.countP_cons_of_pos rfl
      rw [hsucc] at hcount ⊢
      obtain ⟨e, rest, hqueue⟩ := List.exists_cons_of_length_pos (Nat.zero_lt_of_lt hcount)
      obtain ⟨q, hacquire, hnext⟩ := EndpointPool.queue_acquire h.stays_now hqueue
      have hexecute : p.execute .acquire = (some (.ok e), ⟨q, p.now⟩) := by
        rw [execute, hacquire]
      rw [hqueue, List.length_cons] at hcount
      have hrest := ih h.tail (by
        rw [hexecute]
        simp only [hnext, List.length_append, List.length_singleton]
        exact Nat.le_of_succ_le hcount)
      rw [hrest, hexecute, hqueue, List.take_succ_cons, hnext,
        List.take_append_of_le_length (Nat.le_of_succ_le_succ hcount)]
      rfl

end Undisturbed

/-- As many acquisitions as a pool has endpoints hand out each endpoint that may be handed out
when they begin and on which no failure is reported meanwhile. As many acquisitions as there are
healthy endpoints hand out distinct ones if nothing is reported and no quarantine ends. -/
theorem none_starves (p : TimedPool) :
    (∀ id slot commands, p.pool.slots[id]? = some slot → slot.Available p.now →
      .report id .failure ∉ commands → p.pool.size ≤ commands.countP (·.isAcquire) →
        ∃ e ∈ (p.history commands).handedOut, e.id = id) ∧
    ∀ before stretch, p.Undisturbed (before ++ stretch) →
      stretch.countP (·.isAcquire) = p.pool.healthyCount →
        ((p.run before).history stretch).handedOut.length = p.pool.healthyCount ∧
          (((p.run before).history stretch).handedOut.map (·.id)).Nodup := by
  constructor
  · intro id slot commands hslot havailable hfailure hcount
    obtain ⟨k, hk, hawaits⟩ := EndpointPool.awaits_of_available hslot havailable
    exact handedOut_of_awaits hawaits hfailure (hk.trans_le hcount)
  · intro before stretch h hcount
    have hlength : (p.run before).pool.queue.length = p.pool.healthyCount := by
      rw [EndpointPool.length_queue, EndpointPool.healthyCount, EndpointPool.healthyCount,
        h.left.slots_run]
    have hqueue := h.right.handedOut_eq (hcount.trans hlength.symm).le
    rw [hcount, ← hlength, List.take_length] at hqueue
    rw [hqueue]
    exact ⟨hlength, EndpointPool.nodup_queue _⟩

def twoHealthy : TimedPool where
  pool :=
    { chain := .parachain
      quarantine := 60000
      slots := [⟨"a", .healthy⟩, ⟨"b", .quarantined 60000⟩, ⟨"c", .healthy⟩]
      cursor := 0
      cursor_lt := by decide
      published := none }
  now := 0

/-- The third node has its turn although the second one comes back before it, and the healthy
ones alternate as long as it does not. -/
theorem none_starves_twoHealthy :
    (∃ e ∈ (twoHealthy.history [.acquire, .report 0 .failure, .advance 60000, .acquire,
      .report 2 .success, .acquire]).handedOut, e.id = 2) ∧
    twoHealthy.Undisturbed ([.acquire] ++ [.acquire, .advance 59999, .acquire]) ∧
    ((twoHealthy.run [.acquire]).history [.acquire, .advance 59999, .acquire]).handedOut.length = 2
      ∧ (((twoHealthy.run [.acquire]).history
        [.acquire, .advance 59999, .acquire]).handedOut.map (·.id)).Nodup := by
  have hstays : twoHealthy.Undisturbed ([.acquire] ++ [.acquire, .advance 59999, .acquire]) := by
    refine ⟨by decide, ?_⟩
    intro slot hslot expiry hquarantined
    have hnow : (twoHealthy.run ([.acquire] ++ [.acquire, .advance 59999, .acquire])).now = 59999 :=
      rfl
    rw [hnow]
    fin_cases hslot
    · cases hquarantined
    · cases hquarantined
      decide
    · cases hquarantined
  refine ⟨?_, hstays, (none_starves twoHealthy).2 _ _ hstays (by decide)⟩
  exact (none_starves twoHealthy).1 2 ⟨"c", .healthy⟩ _ rfl (.inl rfl) (by simp) (by decide)

end TimedPool
end StakingIndexer
