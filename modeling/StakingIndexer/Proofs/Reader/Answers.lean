import Mathlib
import StakingIndexer.Proofs.Reader.Plan
import StakingIndexer.Rpc.Basic

/-!
# What a reader answers

Attempts on one endpoint after another end with an answer of an endpoint or without any. What
holds of every answer of an endpoint therefore holds of the reader's, and what no call changes
the reader does not change.
-/

namespace StakingIndexer
namespace Action

variable {σ ε ε' α β : Type}

theorem bind_eq (a : Action σ ε α) (f : α → Action σ ε β) (s : σ) :
    (a >>= f) s = match a s with
      | (.ok v, s) => f v s
      | (.error e, s) => (.error e, s) := by
  change (match a s with | (x, t) => ExceptT.bindCont f x t) = _
  rcases a s with ⟨x | x, t⟩ <;> rfl

theorem get_bind (f : σ → Action σ ε α) (s : σ) : (get >>= f : Action σ ε α) s = f s s := by
  rw [bind_eq]
  rfl

theorem map_eq (a : Action σ ε α) (f : α → β) (s : σ) :
    (f <$> a) s = match a s with
      | (.ok v, s) => (.ok (f v), s)
      | (.error e, s) => (.error e, s) := by
  change (a >>= fun v => pure (f v)) s = _
  rw [bind_eq]
  rfl

/-- An action that writes down how it ends. -/
def recording (record : Except ε α → β) (a : Action σ ε α) : Action (σ × List β) ε α :=
  fun w => let r := a w.1; (r.1, r.2, w.2 ++ [record r.1])

/-- An action that keeps an invariant, and whose results have a property if the invariant
held before it. -/
def Meets (I : σ → Prop) (P : α → Prop) (a : Action σ ε α) : Prop :=
  ∀ s, I s → I (a s).2 ∧ ∀ v, (a s).1 = .ok v → P v

variable {I : σ → Prop} {P : α → Prop} {Q : β → Prop}

theorem meets_pure {v : α} (h : P v) : Meets I P (pure v : Action σ ε α) := by
  intro s hs
  refine ⟨hs, fun u hu => ?_⟩
  cases hu
  exact h

theorem meets_throw (e : ε) : Meets I P (throw e : Action σ ε α) := by
  intro s hs
  exact ⟨hs, fun v hv => by cases hv⟩

theorem meets_get : Meets I I (get : Action σ ε σ) := by
  intro s hs
  refine ⟨hs, fun v hv => ?_⟩
  cases hv
  exact hs

theorem meets_set {s : σ} (h : I s) : Meets I (fun _ => True) (set s : Action σ ε PUnit) := by
  intro t ht
  exact ⟨h, fun _ _ => trivial⟩

theorem meets_modify {f : σ → σ} (h : ∀ s, I s → I (f s)) :
    Meets I (fun _ => True) (modify f : Action σ ε Unit) := by
  intro s hs
  exact ⟨h s hs, fun _ _ => trivial⟩

theorem Meets.bind {a : Action σ ε α} {f : α → Action σ ε β} (ha : Meets I P a)
    (hf : ∀ v, P v → Meets I Q (f v)) : Meets I Q (a >>= f) := by
  intro s hs
  obtain ⟨hkept, hanswer⟩ := ha s hs
  rw [bind_eq]
  generalize a s = r at hkept hanswer ⊢
  obtain ⟨e | v, t⟩ := r
  · exact ⟨hkept, fun u hu => by cases hu⟩
  · exact hf v (hanswer v rfl) t hkept

theorem meets_forM {f : α → Action σ ε PUnit} (h : ∀ a, (f a).Meets I fun _ => True)
    (l : List α) : (l.forM f).Meets I fun _ => True := by
  induction l with
  | nil => exact meets_pure trivial
  | cons a l ih => exact (h a).bind fun _ _ => ih

theorem meets_mapM {f : α → Action σ ε β} (h : ∀ a, (f a).Meets I fun _ => True)
    (l : List α) : (l.mapM f).Meets I fun _ => True := by
  induction l with
  | nil => exact meets_pure trivial
  | cons a l ih =>
    rw [List.mapM_cons]
    exact (h a).bind fun _ _ => ih.bind fun _ _ => meets_pure trivial

theorem Meets.map {a : Action σ ε α} {f : α → β} (ha : Meets I P a)
    (hf : ∀ v, P v → Q (f v)) : Meets I Q (f <$> a) := by
  intro s hs
  obtain ⟨hkept, hanswer⟩ := ha s hs
  rw [map_eq]
  generalize a s = r at hkept hanswer ⊢
  obtain ⟨e | v, t⟩ := r
  · exact ⟨hkept, fun u hu => by cases hu⟩
  · refine ⟨hkept, fun u hu => ?_⟩
    cases hu
    exact hf v (hanswer v rfl)

theorem Meets.mapError {a : Action σ ε α} (ha : Meets I P a) (f : ε → ε') :
    Meets I P (a.mapError f) := by
  intro s hs
  obtain ⟨hkept, hanswer⟩ := ha s hs
  unfold Action.mapError
  generalize a s = r at hkept hanswer ⊢
  obtain ⟨e | v, t⟩ := r
  · exact ⟨hkept, fun u hu => by cases hu⟩
  · refine ⟨hkept, fun u hu => ?_⟩
    cases hu
    exact hanswer v rfl

end Action

namespace ChainReader

variable {σ α : Type} {I : σ → Prop} {P : α → Prop} {a : Access σ α}

theorem connectTo_keeps (hconnect : ∀ e, (a.connect e).Meets I fun _ => True)
    (r : ChainReader) (e : Endpoint) {s : σ} (hs : I s) : I (connectTo a r e s).2 := by
  have hkept := (hconnect e s hs).1
  unfold connectTo
  split_ifs
  · exact hs
  · generalize a.connect e s = x at hkept ⊢
    obtain ⟨(error | _) | _, t⟩ := x <;> exact hkept

theorem attempt_meets (hconnect : ∀ e, (a.connect e).Meets I fun _ => True)
    (hcall : ∀ e, (a.call e).Meets I P) (op : String) (r : ChainReader) (e : Endpoint) {s : σ}
    (hs : I s) :
    I (attempt a op r e s).2.2 ∧ ∀ v, (attempt a op r e s).1 = .answered v → P v := by
  have hconnected := connectTo_keeps hconnect r e hs
  unfold attempt
  generalize connectTo a r e s = x at hconnected ⊢
  obtain ⟨error | r', t⟩ := x
  · exact ⟨hconnected, fun v hv => by cases hv⟩
  · obtain ⟨hkept, hanswer⟩ := hcall e t hconnected
    dsimp only
    generalize a.call e t = x at hkept hanswer ⊢
    obtain ⟨((detail | detail | detail) | _) | v, u⟩ := x
    case ok =>
      refine ⟨hkept, fun x hx => ?_⟩
      cases hx
      exact hanswer v rfl
    all_goals exact ⟨hkept, fun x hx => by cases hx⟩

theorem attempts_meets (hconnect : ∀ e, (a.connect e).Meets I fun _ => True)
    (hcall : ∀ e, (a.call e).Meets I P) (op : String) (left made : Nat) (last : LastAttempt)
    (r : ChainReader) {s : σ} (hs : I s) :
    I (attempts a op left made last r s).2.2 ∧
      ∀ v, (attempts a op left made last r s).1 = .ok v → P v := by
  induction left generalizing made last r s with
  | zero => exact ⟨hs, fun v hv => by cases hv⟩
  | succ left ih =>
    unfold attempts
    rcases r.pool.acquire (a.now s) with ⟨error | e, pool⟩
    · exact ⟨hs, fun v hv => by cases hv⟩
    · obtain ⟨hkept, hanswer⟩ := attempt_meets hconnect hcall op { r with pool } e hs
      dsimp only
      generalize attempt a op { r with pool } e s = x at hkept hanswer ⊢
      obtain ⟨v | error | next, r', t⟩ := x
      · refine ⟨hkept, fun x hx => ?_⟩
        cases hx
        exact hanswer v rfl
      · exact ⟨hkept, fun x hx => by cases hx⟩
      · exact ih (made + 1) next r' hkept

end ChainReader

namespace Link

variable {σ α : Type} {I : σ → Prop} {P : α → Prop} {l : Link σ}

theorem run_meets (hconnect : ∀ e, (l.connect e).Meets I fun _ => True)
    (hreader : ∀ r s, I s → I (l.setReader r s)) {call : Endpoint → Action σ Interruption α}
    (hcall : ∀ e, (call e).Meets I P) (op : String) : (l.run op call).Meets I P := by
  intro s hs
  obtain ⟨hkept, hanswer⟩ := ChainReader.attempts_meets (a := ⟨l.now, l.connect, call⟩)
    hconnect hcall op (l.reader s).attemptLimit 0 ⟨"no attempt made", false⟩ (l.reader s) hs
  exact ⟨hreader _ _ hkept, hanswer⟩

variable {logs : LogCall σ} {events : List Event}

/-- Endpoints that answer with the events of the windows they are asked for. -/
def Faithful (I : σ → Prop) (logs : LogCall σ) (events : List Event) : Prop :=
  ∀ w e, (logs w e).Meets I fun answer => answer.Perm (Event.within w events)

theorem gather_meets (hconnect : ∀ e, (l.connect e).Meets I fun _ => True)
    (hreader : ∀ r s, I s → I (l.setReader r s)) (hlogs : Faithful I logs events)
    (windows : List BlockWindow) :
    (l.gather logs windows).Meets I fun answer =>
      answer.Perm (windows.flatMap fun w => Event.within w events) := by
  induction windows with
  | nil => exact Action.meets_pure (.refl _)
  | cons w rest ih =>
    refine (run_meets hconnect hreader (hlogs w) "logs_in_range").bind fun batch hbatch => ?_
    refine ih.bind fun others hothers => Action.meets_pure ?_
    exact hbatch.append hothers

/-- The events that a reader fetches are those of the window, however it is cut. -/
theorem fetchEvents_meets (hconnect : ∀ e, (l.connect e).Meets I fun _ => True)
    (hreader : ∀ r s, I s → I (l.setReader r s)) (hlogs : Faithful I logs events)
    (w : BlockWindow) :
    (l.fetchEvents logs w).Meets I fun answer => answer.Perm (Event.within w events) := by
  intro s hs
  have hgather := gather_meets hconnect hreader hlogs
    (BlockWindow.plan w.first w.last (l.reader s).config.maxRange)
  refine hgather.map (fun answer hanswer => ?_) s hs
  exact ((Event.sortByKey_perm answer).trans hanswer).trans
    (Event.flatMap_plan_perm w.first w.last _ events)

end Link

theorem Rpc.askFor_value {σ ρ α : Type} {api : Rpc.Api σ ρ} {read : Json → Option α} {request : ρ}
    {s s' : σ} {j : Json} {a : α} (hreply : api request s = (.value j, s'))
    (hread : read j = some a) : Rpc.askFor api read request s = (.ok a, s') := by
  unfold Rpc.askFor Rpc.ask
  rw [Action.bind_eq, hreply]
  dsimp only [Rpc.Reply.result]
  rw [hread]
  rfl

end StakingIndexer
