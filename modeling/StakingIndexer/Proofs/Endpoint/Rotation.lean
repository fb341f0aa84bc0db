import Mathlib
import StakingIndexer.Proofs.Endpoint.History

/-!
# The turn of an endpoint

Each search for an endpoint begins behind the one that was handed out last and ends at the
first healthy one. A search never passes a slot that may be handed out, so every endpoint that
is handed out instead brings its turn closer.
-/

namespace StakingIndexer

namespace PoolSlot

/-- A slot that is healthy, or whose quarantine is over at an instant. -/
def Available (now : Nat) (s : PoolSlot) : Prop :=
  s.health = .healthy ∨ ∃ expiry ≤ now, s.health = .quarantined expiry

theorem isHealthy_promote_iff (now : Nat) (s : PoolSlot) :
    (s.promote now).isHealthy ↔ s.Available now := by
  obtain ⟨url, _ | expiry⟩ := s
  · simp [promote, isHealthy, Available]
  · by_cases h : expiry ≤ now <;> simp [promote, isHealthy, Available, h]

theorem available_of_isHealthy {s : PoolSlot} (h : s.isHealthy) (now : Nat) : s.Available now :=
  .inl (of_decide_eq_true h)

end PoolSlot

theorem find?_range_map {n k : Nat} {g : Nat → Nat} {p : Nat → Bool} (hk : k < n)
    (hp : p (g k)) : ∃ j ≤ k, ((List.range n).map g).find? p = some (g j) ∧ p (g j) := by
  rw [List.find?_map]
  cases hfind : (List.range n).find? (p ∘ g) with
  | none =>
    have hnone := List.find?_eq_none.1 hfind k (List.mem_range.2 hk)
    exact absurd hp hnone
  | some j =>
    obtain ⟨hj, -, hbefore⟩ := List.find?_range_eq_some.1 hfind
    refine ⟨j, ?_, rfl, hj⟩
    by_contra hlt
    have hnot := hbefore k (Nat.not_le.1 hlt)
    simp [hp] at hnot

namespace EndpointPool

/-- The slot is `k` slots ahead of the next search, and at an instant it may be handed out. -/
structure Awaits (p : EndpointPool) (now id k : Nat) : Prop where
  available : ∃ slot, p.slots[id]? = some slot ∧ slot.Available now
  ahead : (p.cursor + k) % p.size = id
  lt_size : k < p.size

/-- Every slot is ahead of the search by less than a whole round. -/
theorem exists_ahead (p : EndpointPool) {id : Nat} (hid : id < p.size) :
    ∃ k < p.size, (p.cursor + k) % p.size = id := by
  have hcursor : p.cursor < p.size := p.cursor_lt
  by_cases hle : p.cursor ≤ id
  · refine ⟨id - p.cursor, by omega, ?_⟩
    rw [Nat.add_sub_cancel' hle, Nat.mod_eq_of_lt hid]
  · refine ⟨id + p.size - p.cursor, by omega, ?_⟩
    have hround : p.cursor + (id + p.size - p.cursor) = id + p.size := by omega
    rw [hround, Nat.add_mod_right, Nat.mod_eq_of_lt hid]

theorem awaits_of_available {p : EndpointPool} {now id : Nat} {slot : PoolSlot}
    (hslot : p.slots[id]? = some slot) (h : slot.Available now) :
    ∃ k < p.size, p.Awaits now id k := by
  obtain ⟨hid, -⟩ := List.getElem?_eq_some_iff.1 hslot
  obtain ⟨k, hk, hahead⟩ := p.exists_ahead hid
  exact ⟨k, hk, ⟨slot, hslot, h⟩, hahead, hk⟩

theorem mem_endpoints_iff (p : EndpointPool) (e : Endpoint) :
    e ∈ p.endpoints ↔ p.endpoint? e.id = some e := by
  rw [endpoint?_eq, List.mem_iff_getElem?]
  constructor
  · rintro ⟨i, hi⟩
    have hid : i = e.id := by
      rw [endpoints, Endpoint.getElem?_ofUrls, Option.map_eq_some_iff] at hi
      obtain ⟨url, -, rfl⟩ := hi
      rfl
    rwa [← hid]
  · intro h
    exact ⟨e.id, h⟩

theorem eq_of_id_eq {p : EndpointPool} {d e : Endpoint} (hd : d ∈ p.endpoints)
    (he : e ∈ p.endpoints) (h : d.id = e.id) : d = e := by
  rw [mem_endpoints_iff] at hd he
  rw [h, he] at hd
  exact (Option.some.inj hd).symm

variable {p : EndpointPool} {now id k : Nat}

theorem endpoints_of_promoted {p q : EndpointPool} (hchain : q.chain = p.chain)
    (hslots : q.slots = p.slots.map (·.promote now)) : q.endpoints = p.endpoints := by
  have hurls : q.urls = p.urls := by
    rw [urls, urls, hslots, List.map_map]
    exact List.map_congr_left fun slot _ => slot.url_promote now
  rw [endpoints, endpoints, hchain, hurls]

/-- What is handed out while a slot awaits its turn: its endpoint, or one that comes before it.
In the second case the slot is healthy from then on and closer to its turn. -/
theorem Awaits.acquire (h : p.Awaits now id k) :
    ∃ e q, p.acquire now = (.ok e, q) ∧ q.endpoints = p.endpoints ∧ e ∈ p.endpoints ∧
      (e.id = id ∨ ∃ k' < k, ∀ later, q.Awaits later id k') := by
  obtain ⟨q, ⟨hchain, -, hslots, hcursor⟩, hacquire⟩ := p.acquire_eq now
  obtain ⟨slot, hslot, havailable⟩ := h.available
  have hendpoints := endpoints_of_promoted hchain hslots
  have hsize : q.size = p.size := by rw [size, size, hslots, List.length_map]
  have hpromoted : q.slots[id]? = some (slot.promote now) := by
    rw [hslots, List.getElem?_map, hslot, Option.map_some]
  have hhealthy := (slot.isHealthy_promote_iff now).2 havailable
  -- the search comes to the slot unless it stops before
  have hturn : q.slots[(q.cursor + k) % q.size]?.any (·.isHealthy) := by
    rw [hcursor, hsize, h.ahead, hpromoted]
    exact hhealthy
  have hk : k < q.size := hsize ▸ h.lt_size
  obtain ⟨j, hj, hfind, hfound⟩ := find?_range_map (g := fun i => (q.cursor + i) % q.size)
    (p := fun i => q.slots[i]?.any (·.isHealthy)) hk hturn
  obtain ⟨found, hat, -⟩ := (Option.any_eq_true _ _).1 hfound
  have hendpoint : q.endpoint? ((q.cursor + j) % q.size)
      = some ⟨(q.cursor + j) % q.size, found.url, q.chain⟩ := by
    rw [endpoint?, hat, Option.map_some]
  have hnext : q.nextHealthy? = some ((q.cursor + j) % q.size) := hfind
  rw [hnext, Option.bind_some, hendpoint] at hacquire
  refine ⟨_, _, hacquire, hendpoints, ?_, ?_⟩
  · rw [← hendpoints, List.mem_iff_getElem?]
    exact ⟨_, (endpoint?_eq q _).symm.trans hendpoint⟩
  · rcases Nat.lt_or_eq_of_le hj with hlt | rfl
    · refine .inr ⟨k - (j + 1), by omega, fun later => ⟨⟨_, hpromoted, ?_⟩, ?_, ?_⟩⟩
      · exact PoolSlot.available_of_isHealthy hhealthy later
      · change ((((q.cursor + j) % q.size) + 1) % q.size + (k - (j + 1))) % q.size = id
        rw [← h.ahead, ← hsize, ← hcursor, Nat.mod_add_mod, Nat.add_assoc, Nat.mod_add_mod]
        congr 1
        omega
      · exact Nat.lt_of_le_of_lt (Nat.sub_le _ _) hk
    · left
      change (q.cursor + j) % q.size = id
      rw [hcursor, hsize, h.ahead]

theorem Awaits.report (h : p.Awaits now id k) {other : Nat} (hne : other ≠ id) (instant : Nat)
    (outcome : CallOutcome) : (p.report instant other outcome).Awaits now id k := by
  obtain ⟨⟨-, -, hurls, hcursor⟩, hslots⟩ := p.report_eq instant other outcome
  obtain ⟨slot, hslot, havailable⟩ := h.available
  have hsize : (p.report instant other outcome).size = p.size := by
    have hlength := congrArg List.length hurls
    simpa only [urls, List.length_map, size] using hlength
  have hid : id < (p.report instant other outcome).slots.length := by
    rw [← size, hsize, size]
    exact (List.getElem?_eq_some_iff.1 hslot).1
  have hkept := List.getElem?_eq_getElem hid
  obtain ⟨rfl, -⟩ | ⟨-, hsame⟩ := hslots id _ hkept
  · exact absurd rfl hne
  · rw [hslot] at hsame
    refine ⟨⟨slot, by rw [hkept, hsame], havailable⟩, ?_, hsize ▸ h.lt_size⟩
    rw [hcursor, hsize]
    exact h.ahead

theorem endpoints_report (p : EndpointPool) (now id : Nat) (outcome : CallOutcome) :
    (p.report now id outcome).endpoints = p.endpoints := by
  obtain ⟨⟨hchain, -, hurls, -⟩, -⟩ := p.report_eq now id outcome
  rw [endpoints, endpoints, hchain, hurls]

end EndpointPool
end StakingIndexer
