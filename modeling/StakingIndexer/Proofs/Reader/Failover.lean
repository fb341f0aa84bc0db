import Mathlib
import StakingIndexer.Proofs.Endpoint.Rotation
import StakingIndexer.Reader.Basic

/-!
# Failing over to a working endpoint

A failed attempt puts its own endpoint into quarantine, and no other. An endpoint that works
therefore stays healthy while the turn comes closer with each attempt on another one, however
long these take and whatever quarantines end meanwhile.
-/

namespace StakingIndexer

/-- On states with an invariant, which the nodes of a pool keep, one endpoint is connected to and
answers, and no other one ends a call with an error that is final. -/
structure Access.Serves {σ α : Type} (a : Access σ α) (I : σ → Prop) (endpoints : List Endpoint)
    (e : Endpoint) : Prop where
  connect_keeps : ∀ d ∈ endpoints, ∀ s, I s → I (a.connect d s).2
  call_keeps : ∀ d ∈ endpoints, ∀ s, I s → I (a.call d s).2
  connects : ∀ s, I s → (a.connect e s).1 = .ok ()
  answers : ∀ s, I s → ∃ v, (a.call e s).1 = .ok v
  passes : ∀ d ∈ endpoints, d ≠ e → ∀ s, I s → (∃ v, (a.call d s).1 = .ok v) ∨
    (∃ detail, (a.call d s).1 = .error (.failed (.transport detail))) ∨
      (a.call d s).1 = .error .hung

namespace ChainReader

variable {σ α : Type}

def trials (a : Access σ α) (op : String) :
    (left : Nat) → ChainReader → σ → List (Endpoint × Attempt α)
  | 0, _, _ => []
  | left + 1, r, s =>
    match r.pool.acquire (a.now s) with
    | (.error _, _) => []
    | (.ok e, pool) =>
      match attempt a op { r with pool } e s with
      | (.again last, r, s) => (e, .again last) :: trials a op left r s
      | (outcome, _, _) => [(e, outcome)]

variable {a : Access σ α} {I : σ → Prop} {e : Endpoint} {s : σ} (op : String)

theorem connectTo_effect (r : ChainReader) {d : Endpoint} (hkeeps : I (a.connect d s).2)
    (hs : I s) : ∃ t, I t ∧
      ((∃ r', connectTo a r d s = (.ok r', t) ∧ r'.pool = r.pool) ∨
        (a.connect d s).1 ≠ .ok () ∧ ∃ error, connectTo a r d s = (.error error, t)) := by
  unfold connectTo
  split_ifs with hconnected
  · exact ⟨s, hs, .inl ⟨r, rfl, rfl⟩⟩
  · generalize a.connect d s = x at hkeeps ⊢
    obtain ⟨(error | _) | _, t⟩ := x
    · exact ⟨t, hkeeps, .inr ⟨by simp, error, rfl⟩⟩
    · exact ⟨t, hkeeps, .inr ⟨by simp, _, rfl⟩⟩
    · exact ⟨t, hkeeps, .inl ⟨_, rfl, rfl⟩⟩

theorem attempt_of_serves (r : ChainReader) {endpoints : List Endpoint}
    (ha : a.Serves I endpoints e) (he : e ∈ endpoints) (hs : I s) :
    ∃ v r' s', attempt a op r e s = (.answered v, r', s') := by
  obtain ⟨t, ht, ⟨r', hconnect, -⟩ | ⟨hrefused, -⟩⟩ :=
    connectTo_effect r (ha.connect_keeps e he s hs) hs
  · obtain ⟨v, hcall⟩ := ha.answers t ht
    unfold attempt
    rw [hconnect]
    dsimp only
    generalize a.call e t = x at hcall
    obtain ⟨answer, u⟩ := x
    dsimp only at hcall
    subst hcall
    exact ⟨v, _, _, rfl⟩
  · exact absurd (ha.connects s hs) hrefused

/-- An attempt on another endpoint is answered or leaves that endpoint in quarantine. -/
theorem attempt_of_other (r : ChainReader) {endpoints : List Endpoint} {d : Endpoint}
    (ha : a.Serves I endpoints e) (hd : d ∈ endpoints) (hne : d ≠ e) (hs : I s) :
    (∃ v r' s', attempt a op r d s = (.answered v, r', s')) ∨
      ∃ last instant r' s', attempt a op r d s = (.again last, r', s') ∧
        r'.pool = r.pool.report instant d.id .failure ∧ I s' := by
  obtain ⟨t, ht, ⟨r', hconnect, hpool⟩ | ⟨-, error, hconnect⟩⟩ :=
    connectTo_effect r (ha.connect_keeps d hd s hs) hs
  · have hkept := ha.call_keeps d hd t ht
    have hpasses := ha.passes d hd hne t ht
    unfold attempt
    rw [hconnect]
    dsimp only
    generalize a.call d t = x at hkept hpasses
    obtain ⟨answer, u⟩ := x
    dsimp only at hkept hpasses
    rcases hpasses with ⟨v, rfl⟩ | ⟨detail, rfl⟩ | rfl
    · exact .inl ⟨v, _, _, rfl⟩
    · exact .inr ⟨_, a.now u, _, u, rfl, by rw [fail, hpool], hkept⟩
    · exact .inr ⟨_, a.now u, _, u, rfl, by rw [fail, hpool], hkept⟩
  · unfold attempt
    rw [hconnect]
    exact .inr ⟨_, a.now t, _, t, rfl, rfl, ht⟩

/-- Where an endpoint works and is `k` slots ahead, one of the next `k + 1` attempts is answered. -/
theorem attempts_answered {endpoints : List Endpoint} (ha : a.Serves I endpoints e)
    (he : e ∈ endpoints) (left made : Nat) (last : LastAttempt) {k : Nat} {r : ChainReader}
    (hpool : r.pool.endpoints = endpoints) (hk : r.pool.Awaits (a.now s) e.id k)
    (hleft : k < left) (hs : I s) :
    ∃ v d, (attempts a op left made last r s).1 = .ok v ∧
      (trials a op left r s).length ≤ k + 1 ∧
        (trials a op left r s).getLast? = some (d, .answered v) := by
  induction left generalizing made k last r s with
  | zero => exact absurd hleft (Nat.not_lt_zero k)
  | succ left ih =>
    obtain ⟨d, q, hacquire, hkept, hd, hturn⟩ := hk.acquire
    unfold attempts trials
    rw [hacquire]
    dsimp only
    by_cases hde : d = e
    · subst hde
      obtain ⟨v, r', s', hattempt⟩ := attempt_of_serves op { r with pool := q } ha he hs
      rw [hattempt]
      exact ⟨v, d, rfl, Nat.le_add_left 1 k, rfl⟩
    · rw [hpool] at hd hkept
      obtain ⟨v, r', s', hattempt⟩ | ⟨next, instant, r', s', hattempt, hreport, hs'⟩ :=
        attempt_of_other op { r with pool := q } ha hd hde hs
      · rw [hattempt]
        exact ⟨v, d, rfl, Nat.le_add_left 1 k, rfl⟩
      · -- the turn has come closer, and the report on another endpoint leaves it there
        obtain hid | ⟨k', hlt, hcloser⟩ := hturn
        · exact absurd (EndpointPool.eq_of_id_eq (hpool ▸ hd) (hpool ▸ he) hid) hde
        · have hother : d.id ≠ e.id := fun hid =>
            hde (EndpointPool.eq_of_id_eq (hpool ▸ hd) (hpool ▸ he) hid)
          have hnext : r'.pool.Awaits (a.now s') e.id k' := by
            rw [hreport]
            exact (hcloser _).report hother instant .failure
          have hendpoints : r'.pool.endpoints = endpoints := by
            rw [hreport, EndpointPool.endpoints_report, hkept]
          obtain ⟨v, b, hanswer, hlength, hlast⟩ :=
            ih (made + 1) next hendpoints hnext (by omega) hs'
          rw [hattempt]
          refine ⟨v, b, hanswer, ?_, ?_⟩
          · simp only [List.length_cons]
            omega
          · dsimp only
            rw [List.getLast?_cons, hlast]
            rfl

/-- A call is answered, after at most one attempt for each endpoint, if one of them may be handed
out and works, whatever the attempts on the others do and however long they take. -/
theorem withClient_answers {r : ChainReader}
    (hlimit : ∀ limit, r.config.maxAttempts = some limit → r.pool.size ≤ limit)
    (he : e ∈ r.pool.endpoints)
    (havailable : ∃ slot, r.pool.slots[e.id]? = some slot ∧ slot.Available (a.now s))
    (ha : a.Serves I r.pool.endpoints e) (hs : I s) :
    ∃ v d, (withClient a op r s).1 = .ok v ∧
      (trials a op r.attemptLimit r s).length ≤ r.pool.size ∧
        (trials a op r.attemptLimit r s).getLast? = some (d, .answered v) := by
  obtain ⟨slot, hslot, hslotAvailable⟩ := havailable
  obtain ⟨k, hk, hawaits⟩ := EndpointPool.awaits_of_available hslot hslotAvailable
  have henough : r.pool.size ≤ r.attemptLimit := by
    unfold attemptLimit
    cases hmax : r.config.maxAttempts with
    | none =>
      rw [Option.getD_none]
      omega
    | some limit =>
      have hle := hlimit limit hmax
      rw [Option.getD_some]
      omega
  obtain ⟨v, d, hanswer, hlength, hlast⟩ :=
    attempts_answered op ha he r.attemptLimit 0 ⟨"no attempt made", false⟩ rfl hawaits
      (Nat.lt_of_lt_of_le hk henough) hs
  exact ⟨v, d, hanswer, Nat.le_trans hlength hk, hlast⟩

def slowNodes : Access Nat UInt64 where
  now t := t
  connect _ t := (.ok (), t)
  call e t := if e.url = "b" then (.ok 42, t + 1) else (.error .hung, t + 5000)

/-- A reader whose search begins at a node that hangs, with quarantines of one second. -/
def slowReader : ChainReader where
  pool :=
    { chain := .parachain
      quarantine := 1000
      slots := [⟨"a", .healthy⟩, ⟨"b", .quarantined 70⟩, ⟨"c", .healthy⟩]
      cursor := 2
      cursor_lt := by decide
      published := none }
  connected := []
  config := ⟨5000, some 3, 2500⟩

/-- The quarantine of the first node that hangs is over before the node that works is reached. -/
theorem withClient_answers_slowNodes :
    slowReader.pool.size = 3 ∧ slowReader.pool.slots[1]? = some ⟨"b", .quarantined 70⟩ ∧
      ∃ v d, (withClient slowNodes "current_height" slowReader 100).1 = .ok v ∧
        (trials slowNodes "current_height" slowReader.attemptLimit slowReader 100).length ≤ 3 ∧
          (trials slowNodes "current_height" slowReader.attemptLimit slowReader 100).getLast?
            = some (d, .answered v) := by
  have hserves : slowNodes.Serves (fun _ => True) slowReader.pool.endpoints
      ⟨1, "b", .parachain⟩ := {
    connect_keeps := fun _ _ _ _ => trivial
    call_keeps := fun _ _ _ _ => trivial
    connects := fun _ _ => rfl
    answers := fun _ _ => ⟨42, rfl⟩
    passes := by
      intro d hd hne t _
      have hurl : d.url ≠ "b" := by
        have hothers : ∀ d ∈ slowReader.pool.endpoints, d ≠ ⟨1, "b", .parachain⟩ →
            d.url ≠ "b" := by decide
        exact hothers d hd hne
      exact .inr (.inr (by simp [slowNodes, hurl])) }
  refine ⟨rfl, rfl, withClient_answers "current_height" ?_ (by decide) ?_ hserves trivial⟩
  · rintro limit ⟨⟩
    exact Nat.le_refl 3
  · exact ⟨_, rfl, .inr ⟨70, by decide, rfl⟩⟩

end ChainReader
end StakingIndexer
