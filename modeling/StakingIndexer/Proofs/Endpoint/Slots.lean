import Mathlib
import StakingIndexer.Proofs.Endpoint.Rotation

/-!
# What happens to a single slot

Whoever asks for an endpoint lifts the quarantines that are over, and whoever reports on one
marks its slot. Nothing else changes the health of a slot, and an endpoint that is handed out is
healthy from then on.
-/

namespace StakingIndexer

namespace Health

/-- The health of a slot that is looked at some instants, with no report in between. -/
def lifted (instants : List Nat) : Health → Health
  | .healthy => .healthy
  | .quarantined expiry =>
    if ∃ instant ∈ instants, expiry ≤ instant then .healthy else .quarantined expiry

@[simp] theorem lifted_healthy (instants : List Nat) : healthy.lifted instants = healthy := rfl

@[simp] theorem lifted_nil (health : Health) : health.lifted [] = health := by
  cases health <;> simp [lifted]

theorem lifted_append (first later : List Nat) (health : Health) :
    health.lifted (first ++ later) = (health.lifted first).lifted later := by
  cases health with
  | healthy => rfl
  | quarantined expiry =>
    by_cases hfirst : ∃ instant ∈ first, expiry ≤ instant
    · have hboth : ∃ instant ∈ first ++ later, expiry ≤ instant := by
        obtain ⟨instant, hmem, hle⟩ := hfirst
        exact ⟨instant, List.mem_append_left _ hmem, hle⟩
      rw [lifted, lifted, if_pos hboth, if_pos hfirst, lifted_healthy]
    · have hlater : (∃ instant ∈ first ++ later, expiry ≤ instant) ↔
          ∃ instant ∈ later, expiry ≤ instant := by
        constructor
        · rintro ⟨instant, hmem, hle⟩
          rcases List.mem_append.1 hmem with h | h
          · exact absurd ⟨instant, h, hle⟩ hfirst
          · exact ⟨instant, h, hle⟩
        · rintro ⟨instant, hmem, hle⟩
          exact ⟨instant, List.mem_append_right _ hmem, hle⟩
      rw [lifted, lifted, if_neg hfirst, lifted]
      simp only [hlater]

end Health

theorem PoolSlot.health_promote (now : Nat) (s : PoolSlot) :
    (s.promote now).health = s.health.lifted [now] := by
  obtain ⟨url, _ | expiry⟩ := s
  · rfl
  · by_cases h : expiry ≤ now <;> simp [promote, Health.lifted, h]

theorem PoolSlot.promote_eq_self {now : Nat} {s : PoolSlot} (h : ¬ s.Available now) :
    s.promote now = s := by
  obtain ⟨url, _ | expiry⟩ := s
  · exact absurd (.inl rfl) h
  · have hlater : ¬ expiry ≤ now := fun hle => h (.inr ⟨expiry, hle, rfl⟩)
    simp [promote, hlater]

namespace EndpointPool

def health? (p : EndpointPool) (id : Nat) : Option Health := p.slots[id]?.map (·.health)

theorem exists_health {p : EndpointPool} {e : Endpoint} (h : e ∈ p.endpoints) :
    ∃ health, p.health? e.id = some health := by
  obtain ⟨slot, hslot, -⟩ := Option.map_eq_some_iff.1 ((p.mem_endpoints_iff e).1 h)
  exact ⟨slot.health, by rw [health?, hslot, Option.map_some]⟩

/-- Pools of the same endpoints. -/
structure Alike (p q : EndpointPool) : Prop where
  chain : q.chain = p.chain
  quarantine : q.quarantine = p.quarantine
  endpoints : q.endpoints = p.endpoints

namespace Alike

variable {p q q' : EndpointPool}

theorem refl (p : EndpointPool) : p.Alike p := ⟨rfl, rfl, rfl⟩

theorem trans (h : p.Alike q) (h' : q.Alike q') : p.Alike q' :=
  ⟨h'.chain.trans h.chain, h'.quarantine.trans h.quarantine, h'.endpoints.trans h.endpoints⟩

end Alike

theorem alike_report (p : EndpointPool) (now id : Nat) (outcome : CallOutcome) :
    p.Alike (p.report now id outcome) := by
  obtain ⟨⟨hchain, hquarantine, -, -⟩, -⟩ := p.report_eq now id outcome
  exact ⟨hchain, hquarantine, p.endpoints_report now id outcome⟩

theorem health?_report (p : EndpointPool) (now id j : Nat) (outcome : CallOutcome) :
    (p.report now id outcome).health? j = (p.health? j).map fun health =>
      if id = j then
        match outcome with
        | .failure => .quarantined (now + p.quarantine)
        | .success => .healthy
      else health := by
  obtain ⟨⟨-, -, hurls, -⟩, hslots⟩ := p.report_eq now id outcome
  have hlength : (p.report now id outcome).slots.length = p.slots.length := by
    simpa only [urls, List.length_map] using congrArg List.length hurls
  unfold health?
  cases hslot : (p.report now id outcome).slots[j]? with
  | none =>
    rw [List.getElem?_eq_none_iff, hlength, ← List.getElem?_eq_none_iff] at hslot
    rw [hslot]
    rfl
  | some slot =>
    obtain ⟨hj, -⟩ := List.getElem?_eq_some_iff.1 hslot
    rw [List.getElem?_eq_getElem (hlength ▸ hj)]
    obtain ⟨rfl, hhealth⟩ | ⟨hne, hkept⟩ := hslots j slot hslot
    · cases outcome <;> simp [hhealth]
    · rw [List.getElem?_eq_getElem (hlength ▸ hj)] at hkept
      simp [Option.some.inj hkept, Ne.symm hne]

theorem report_success_of_healthy {p : EndpointPool} {id : Nat}
    (h : p.health? id = some .healthy) (now : Nat) : p.report now id .success = p := by
  obtain ⟨slot, hslot, hhealth⟩ := Option.map_eq_some_iff.1 h
  have hhealthy : slot.isHealthy = true := decide_eq_true hhealth
  unfold report
  rw [hslot]
  exact if_pos hhealthy

theorem acquire_ok {p q : EndpointPool} {now : Nat} {e : Endpoint}
    (h : p.acquire now = (.ok e, q)) :
    p.Alike q ∧ e ∈ p.endpoints ∧ q.health? e.id = some .healthy ∧
      ∀ id, q.health? id = (p.health? id).map (·.lifted [now]) := by
  obtain ⟨promoted, ⟨hchain, hquarantine, hslots, -⟩, hacquire⟩ := p.acquire_eq now
  rw [h] at hacquire
  cases hnext : promoted.nextHealthy? with
  | none => rw [hnext] at hacquire; cases hacquire
  | some id =>
    rw [hnext, Option.bind_some] at hacquire
    cases hendpoint : promoted.endpoint? id with
    | none => rw [hendpoint] at hacquire; cases hacquire
    | some found =>
      rw [hendpoint] at hacquire
      cases hacquire
      have hendpoints := endpoints_of_promoted hchain hslots
      obtain ⟨slot, hslot, rfl⟩ := Option.map_eq_some_iff.1 hendpoint
      refine ⟨⟨hchain, hquarantine, hendpoints⟩, ?_, ?_, fun j => ?_⟩
      · exact hendpoints ▸ (mem_endpoints_iff _ _).2 hendpoint
      · have hhealthy := List.find?_some hnext
        rw [hslot] at hhealthy
        change promoted.slots[id]?.map _ = _
        rw [hslot]
        exact congrArg some (of_decide_eq_true hhealthy)
      · change promoted.slots[j]?.map _ = _
        rw [hslots, List.getElem?_map, Option.map_map, health?, Option.map_map]
        exact congrArg (fun f => p.slots[j]?.map f) (funext fun slot => slot.health_promote now)

/-- Who is handed no endpoint leaves the slots as they are, none of which may be handed out. -/
theorem acquire_error {p q : EndpointPool} {now : Nat} {error : EndpointPoolError}
    (h : p.acquire now = (.error error, q)) :
    error = .exhausted p.chain ∧ p.Alike q ∧ q.slots = p.slots ∧
      ∀ slot ∈ p.slots, ¬ slot.Available now := by
  have hnone : ∀ slot ∈ p.slots, ¬ slot.Available now := by
    intro slot hslot havailable
    obtain ⟨id, hid⟩ := List.mem_iff_getElem?.1 hslot
    obtain ⟨k, -, hawaits⟩ := awaits_of_available hid havailable
    obtain ⟨e, _, hok, -⟩ := hawaits.acquire
    rw [h] at hok
    cases hok
  obtain ⟨promoted, ⟨hchain, hquarantine, hslots, -⟩, hacquire⟩ := p.acquire_eq now
  have hkept : promoted.slots = p.slots := by
    rw [hslots]
    exact (List.map_congr_left fun slot hslot =>
      PoolSlot.promote_eq_self (hnone slot hslot)).trans (List.map_id _)
  rw [h] at hacquire
  cases hnext : promoted.nextHealthy?.bind promoted.endpoint? with
  | some e => rw [hnext] at hacquire; cases hacquire
  | none =>
    rw [hnext] at hacquire
    cases hacquire
    exact ⟨rfl, ⟨hchain, hquarantine, endpoints_of_promoted hchain hslots⟩, hkept, hnone⟩

end EndpointPool
end StakingIndexer
