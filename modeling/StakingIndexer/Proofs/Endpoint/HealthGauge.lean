import Mathlib
import StakingIndexer.Proofs.Endpoint.History

/-!
# The published number of healthy endpoints

A pool does not publish with every command, but only when it has lifted a quarantine or marked a
slot, and it returns early where nothing is to be done. Nothing else changes the health of a slot,
so what was published last is always the number of healthy endpoints. The other gauges of the
registry in which a pool publishes keep their values.
-/

namespace StakingIndexer

theorem GaugeTable.get?_set (t : GaugeTable) (key other : String) (value : Float) :
    (t.set key value).get? other = if other = key then some value else t.get? other := by
  induction t with
  | nil =>
    by_cases h : key = other
    · simp [set, get?, h]
    · simp [set, get?, h, Ne.symm h]
  | cons e rest ih =>
    unfold set
    by_cases hkey : e.1 = key
    · by_cases h : key = other
      · simp [get?, hkey, h]
      · simp [get?, hkey, h, Ne.symm h]
    · by_cases h : e.1 = other
      · have hne : other ≠ key := fun hother => hkey (h.trans hother)
        simp [get?, h, hne]
      · simp only [get?, beq_iff_eq, hkey, if_false] at ih ⊢
        rw [List.find?_cons_of_neg (by simpa using h), List.find?_cons_of_neg (by simpa using h),
          ih]

theorem Publisher.get?_set (p : Publisher) (g : Gauge) (key : String) :
    (p.set g).get? key = if key = g.key then some g.value else p.get? key :=
  GaugeTable.get?_set p.gauges g.key key g.value

namespace Publisher

variable {keys : Set String} {p q r : Publisher}

/-- Registries in which the gauges of other keys have equal values. -/
def AgreeOutside (keys : Set String) (p q : Publisher) : Prop := Set.EqOn p.get? q.get? keysᶜ

namespace AgreeOutside

theorem refl (p : Publisher) : p.AgreeOutside keys p := Set.eqOn_refl _ _

theorem trans (h : p.AgreeOutside keys q) (h' : q.AgreeOutside keys r) :
    p.AgreeOutside keys r := Set.EqOn.trans h h'

theorem set (h : p.AgreeOutside keys q) (g : Gauge) : (p.set g).AgreeOutside keys (q.set g) := by
  intro key hkey
  rw [get?_set, get?_set, h hkey]

theorem publishAll (h : p.AgreeOutside keys q) (gauges : List Gauge) :
    (p.publishAll gauges).AgreeOutside keys (q.publishAll gauges) := by
  induction gauges generalizing p q with
  | nil => exact h
  | cons g gauges ih => exact ih (h.set g)

end AgreeOutside

theorem publishAll_agreeOutside {gauges : List Gauge} (h : ∀ g ∈ gauges, g.key ∈ keys)
    (p : Publisher) : (p.publishAll gauges).AgreeOutside keys p := by
  induction gauges generalizing p with
  | nil => exact .refl p
  | cons g gauges ih =>
    rw [List.forall_mem_cons] at h
    refine (ih h.2 (p.set g)).trans fun key hkey => ?_
    rw [get?_set, if_neg]
    rintro rfl
    exact hkey h.1

end Publisher

namespace EndpointPool

def healthKey (chain : Chain) : String :=
  Gauge.labeledKey "endpoint_pool_healthy_endpoints" "chain" chain.name

def healthKeys : Set String := Set.range healthKey

theorem key_mem_healthKeys {p : EndpointPool} {g : Gauge} (h : g ∈ p.gauges) :
    g.key ∈ healthKeys := by
  obtain ⟨n, -, rfl⟩ := List.mem_map.1 h
  exact ⟨p.chain, rfl⟩

/-- A pool sets no gauges but the pools' own. -/
theorem publishTo_agreeOutside (p : EndpointPool) (registry : Publisher) :
    (p.publishTo registry).AgreeOutside healthKeys registry :=
  Publisher.publishAll_agreeOutside (fun _ => key_mem_healthKeys) registry

/-- A pool that has published, and last of all the number of its healthy endpoints. -/
def ShowsHealth (p : EndpointPool) : Prop := p.published = some p.healthyCount

variable {p q : EndpointPool}

theorem showsHealth_attachPublisher (p : EndpointPool) : p.attachPublisher.ShowsHealth := rfl

theorem showsHealth_publishHealth {shown : Nat} (h : p.published = some shown) :
    p.publishHealth.ShowsHealth := by
  change p.published.map (fun _ => p.healthyCount) = some p.healthyCount
  rw [h, Option.map_some]

namespace ShowsHealth

theorem of_slots (h : p.ShowsHealth) (hslots : q.slots = p.slots)
    (hpublished : q.published = p.published) : q.ShowsHealth := by
  rw [ShowsHealth, hpublished, h, healthyCount, healthyCount, hslots]

/-- Quarantines that are lifted are published, and the search changes no slot. -/
theorem acquire (h : p.ShowsHealth) (now : Nat) : (p.acquire now).2.ShowsHealth := by
  have hlifted : (if (p.promoteExpired now).slots = p.slots then p
      else (p.promoteExpired now).publishHealth).ShowsHealth := by
    split_ifs with hslots
    · exact h
    · exact showsHealth_publishHealth (p := p.promoteExpired now) h
  unfold EndpointPool.acquire
  dsimp only
  generalize (if (p.promoteExpired now).slots = p.slots then p
    else (p.promoteExpired now).publishHealth) = lifted at hlifted
  cases lifted.nextHealthy? with
  | none => exact hlifted
  | some id =>
    dsimp only
    cases lifted.endpoint? id with
    | none => exact hlifted
    | some e => exact hlifted.of_slots rfl rfl

/-- A slot that is marked is published, and the reports that mark none change nothing. -/
theorem report (h : p.ShowsHealth) (now id : Nat) (outcome : CallOutcome) :
    (p.report now id outcome).ShowsHealth := by
  have hmarked : ∀ health : Health, (p.setHealth id health).publishHealth.ShowsHealth := by
    intro health
    exact showsHealth_publishHealth (p := p.setHealth id health) h
  cases hslot : p.slots[id]? with
  | none =>
    rw [report_of_unknown hslot]
    exact h
  | some slot =>
    unfold EndpointPool.report
    rw [hslot]
    cases outcome with
    | failure => exact hmarked _
    | success =>
      dsimp only
      split_ifs
      · exact h
      · exact hmarked _

theorem get?_publishAll (h : p.ShowsHealth) (registry : Publisher) :
    (registry.publishAll p.gauges).get? (healthKey p.chain) = some p.healthyCount.toFloat := by
  have hgauges : p.gauges = [.labeled "endpoint_pool_healthy_endpoints" "chain" p.chain.name
      p.healthyCount.toFloat] := by
    rw [gauges, h]
    rfl
  rw [hgauges]
  change (registry.set _).get? _ = _
  rw [Publisher.get?_set]
  exact if_pos rfl

end ShowsHealth
end EndpointPool

namespace TimedPool

variable {p : TimedPool}

theorem showsHealth_execute (h : p.pool.ShowsHealth) (c : PoolCommand) :
    (p.execute c).2.pool.ShowsHealth := by
  cases c with
  | acquire => exact h.acquire p.now
  | report id outcome => exact h.report p.now id outcome
  | advance milliseconds => exact h
  | attachPublisher => exact p.pool.showsHealth_attachPublisher

theorem chain_execute (p : TimedPool) (c : PoolCommand) :
    (p.execute c).2.pool.chain = p.pool.chain := by
  cases c with
  | acquire =>
    obtain ⟨q, ⟨hchain, -⟩, hacquire⟩ := p.pool.acquire_eq p.now
    change (p.pool.acquire p.now).2.chain = p.pool.chain
    rw [hacquire]
    cases q.nextHealthy?.bind q.endpoint? <;> exact hchain
  | report id outcome => exact (p.pool.report_eq p.now id outcome).1.1
  | advance milliseconds => rfl
  | attachPublisher => rfl

theorem showsHealth_run (h : p.pool.ShowsHealth) (commands : List PoolCommand) :
    (p.run commands).pool.ShowsHealth ∧ (p.run commands).pool.chain = p.pool.chain := by
  induction commands generalizing p with
  | nil => exact ⟨h, rfl⟩
  | cons c commands ih =>
    obtain ⟨hshows, hchain⟩ := ih (showsHealth_execute h c)
    exact ⟨hshows, hchain.trans (p.chain_execute c)⟩

/-- From the command on that gives a pool its publisher, in whatever state it is then, the gauge of
its chain is the number of its healthy slots behind every command, whatever else is published. -/
theorem gauge_eq_healthyCount (p : TimedPool) (commands : List PoolCommand)
    (registry : Publisher) :
    let q := (run (p.execute .attachPublisher).2 commands).pool
    (registry.publishAll q.gauges).get? (EndpointPool.healthKey p.pool.chain)
        = some q.healthyCount.toFloat ∧
      q.published = some q.healthyCount ∧
      q.healthyCount = (q.slots.filter fun slot => slot.health = .healthy).length := by
  intro q
  have hattached : (p.execute .attachPublisher).2.pool.ShowsHealth :=
    p.pool.showsHealth_attachPublisher
  obtain ⟨hshows, hchain⟩ := showsHealth_run hattached commands
  have hgauge := hshows.get?_publishAll registry
  rw [hchain] at hgauge
  refine ⟨hgauge, hshows, ?_⟩
  rw [EndpointPool.healthyCount, List.countP_eq_length_filter]
  rfl

end TimedPool
end StakingIndexer
