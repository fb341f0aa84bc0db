import Mathlib
import StakingIndexer.Proofs.Reader.Answers
import StakingIndexer.Proofs.Relay.EraSearch
import StakingIndexer.Relay.Snapshot
import StakingIndexer.Scan.ChainSources

/-!
# What readings leave alone

A reading is made of requests to the nodes behind a link. What no request, no connection and no
change of the reader touches is therefore not touched by a whole reading either, however it ends.
-/

namespace StakingIndexer

namespace Action

variable {σ ε ε' α β : Type} {I : σ → Prop}

/-- An action that keeps an invariant, whatever comes of it. -/
def Keeps (I : σ → Prop) (a : Action σ ε α) : Prop := a.Meets I fun _ => True

theorem Meets.keeps {P : α → Prop} {a : Action σ ε α} (h : a.Meets I P) : a.Keeps I :=
  fun s hs => ⟨(h s hs).1, fun _ _ => trivial⟩

theorem keeps_pure (v : α) : Keeps I (pure v : Action σ ε α) := meets_pure trivial

theorem keeps_throw (e : ε) : Keeps I (throw e : Action σ ε α) := meets_throw e

theorem keeps_get : Keeps I (get : Action σ ε σ) := meets_get.keeps

theorem keeps_ofExcept (x : Except ε α) : Keeps I (MonadExcept.ofExcept x : Action σ ε α) := by
  cases x with
  | error e => exact keeps_throw e
  | ok v => exact keeps_pure v

theorem Keeps.bind {a : Action σ ε α} {f : α → Action σ ε β} (ha : a.Keeps I)
    (hf : ∀ v, (f v).Keeps I) : (a >>= f).Keeps I := Meets.bind ha fun v _ => hf v

theorem keeps_optionMapM {f : α → Action σ ε β} (hf : ∀ a, (f a).Keeps I) (o : Option α) :
    (o.mapM f).Keeps I := by
  cases o with
  | none => exact keeps_pure none
  | some a => exact (hf a).bind fun _ => keeps_pure _

theorem Keeps.mapError {a : Action σ ε α} (ha : a.Keeps I) (f : ε → ε') :
    (a.mapError f).Keeps I := Meets.mapError ha f

end Action

namespace Rpc

variable {σ ρ α : Type} {I : σ → Prop} {api : Api σ ρ}

def Api.Keeps (I : σ → Prop) (api : Api σ ρ) : Prop := ∀ request s, I s → I (api request s).2

theorem keeps_ask (h : api.Keeps I) (request : ρ) : (ask api request).Keeps I :=
  fun s hs => ⟨h request s hs, fun _ _ => trivial⟩

theorem keeps_askFor (h : api.Keeps I) (read : Json → Option α) (request : ρ) :
    (askFor api read request).Keeps I := by
  refine (keeps_ask h request).bind fun result => ?_
  cases read result with
  | none => exact Action.keeps_throw _
  | some a => exact Action.keeps_pure a

end Rpc

namespace Contract

open StakingIndexer.Action Rpc

variable {σ α : Type} {I : σ → Prop} {api : Api σ} (h : api.Keeps I)
include h

theorem keeps_currentHeight : (currentHeight api).Keeps I := by
  refine (keeps_askFor h _ _).bind fun height => ?_
  cases height with
  | none => exact keeps_throw _
  | some height => exact keeps_pure height

theorem keeps_events (window : BlockWindow) : (events api window).Keeps I :=
  (keeps_askFor h _ _).bind fun logs => meets_mapM (fun _ => keeps_ofExcept _) logs

theorem keeps_call (read : Bytes → Option α) (contract : Address) (signature : String)
    (arguments : List Bytes) (block : UInt64) :
    (call api read contract signature arguments block).Keeps I :=
  (keeps_ask h _).bind fun _ => keeps_ofExcept _

theorem keeps_tryCall (read : Bytes → Option α) (contract : Address) (signature : String)
    (arguments : List Bytes) (block : UInt64) :
    (tryCall api read contract signature arguments block).Keeps I := by
  intro s hs
  have hkept := h (.call contract (Abi.call signature arguments) block) s hs
  unfold tryCall
  generalize api _ s = r at hkept ⊢
  obtain ⟨reply, t⟩ := r
  cases reply <;> exact ⟨hkept, fun _ _ => trivial⟩

theorem keeps_balance (account : Address) (block : UInt64) :
    (balance api account block).Keeps I := keeps_askFor h _ _

end Contract

namespace Contract.View

open StakingIndexer.Action

variable {σ : Type} {I : σ → Prop} {v : View σ} (h : v.api.Keeps I)
include h

theorem keeps_amount (contract : Address) (signature : String) (arguments : List Bytes) :
    (v.amount contract signature arguments).Keeps I := keeps_call h _ _ _ _ _

theorem keeps_ledgerRecord (ledger : Address) : (v.ledgerRecord ledger).Keeps I := by
  refine (keeps_call h _ _ _ _ _).bind fun _ => (keeps_ofExcept _).bind fun _ => ?_
  iterate 9 refine (keeps_amount h _ _ _).bind fun _ => ?_
  exact keeps_pure _

theorem keeps_oracleBalancesFrom (left index : Nat) :
    (v.oracleBalancesFrom left index).Keeps I := by
  induction left generalizing index with
  | zero => exact keeps_pure _
  | succ left ih =>
    refine (keeps_tryCall h _ _ _ _ _).bind fun member => ?_
    cases member with
    | none => exact keeps_pure _
    | some member =>
      exact (keeps_balance h _ _).bind fun _ => (ih _).bind fun _ => keeps_pure _

theorem keeps_oracleEra : v.oracleEra.Keeps I := by
  iterate 5 refine (keeps_call h _ _ _ _ _).bind fun _ => ?_
  exact keeps_pure _

theorem keeps_withdrawalSnapshot : v.withdrawalSnapshot.Keeps I := by
  iterate 4 refine (keeps_amount h _ _ _).bind fun _ => ?_
  exact keeps_pure _

theorem keeps_snapshot : v.snapshot.Keeps I := by
  iterate 4 refine (keeps_amount h _ _ _).bind fun _ => ?_
  refine (keeps_call h _ _ _ _ _).bind fun addresses => ?_
  refine (meets_mapM (keeps_ledgerRecord h) addresses).keeps.bind fun _ => ?_
  refine Keeps.bind ((keeps_amount h _ _ _).bind fun _ => keeps_oracleBalancesFrom h _ _)
    fun _ => ?_
  refine (keeps_oracleEra h).bind fun _ => (keeps_amount h _ _ _).bind fun _ => ?_
  exact (keeps_withdrawalSnapshot h).bind fun _ => keeps_pure _

theorem keeps_stashLedgers (source : StashSource) : (v.stashLedgers source).Keeps I := by
  refine (keeps_call h _ _ _ _ _).bind fun stashes => meets_mapM (fun stash => ?_) stashes
  exact (keeps_call h _ _ _ _ _).bind fun _ => keeps_pure _

end Contract.View

namespace Relay

open StakingIndexer.Action Rpc

section Api

variable {σ α : Type} {I : σ → Prop} {api : Api σ} (h : api.Keeps I)
include h

theorem keeps_currentHeight : (currentHeight api).Keeps I := by
  refine (keeps_askFor h _ _).bind fun hash => (keeps_askFor h _ _).bind fun number => ?_
  cases number with
  | none => exact keeps_throw _
  | some number => exact keeps_ofExcept _

theorem meets_atBlock (block : UInt64) :
    (BlockStorage.atBlock api block).Meets I fun s => s.api.Keeps I := by
  refine Meets.bind (P := fun _ => True) ?_ fun _ _ => meets_pure h
  refine (keeps_askFor h _ _).bind fun hash => ?_
  cases hash with
  | none => exact keeps_throw _
  | some hash => exact keeps_pure hash

theorem keeps_storage (hash : String) (c : Codec α) (key : Bytes) :
    (storage api hash c key).Keeps I := by
  refine Keeps.bind ((keeps_askFor h _ _).bind fun text => ?_) fun bytes => ?_
  · cases text with
    | none => exact keeps_pure _
    | some text =>
      dsimp only
      cases Bytes.ofHex text with
      | none => exact keeps_throw _
      | some bytes => exact keeps_pure _
  · cases bytes with
    | none => exact keeps_pure _
    | some bytes =>
      dsimp only
      cases c.decode bytes with
      | none => exact keeps_throw _
      | some value => exact keeps_pure _

end Api

namespace BlockStorage

variable {σ : Type} {I : σ → Prop} {s : BlockStorage σ} (h : s.api.Keeps I)
include h

theorem keeps_freeBalance (account : AccountId) : (s.freeBalance account).Keeps I :=
  (keeps_storage h _ _ _).bind fun _ => keeps_pure _

theorem keeps_relayLedger (l : StashLedger) (sessionValidators : List AccountId)
    (format : UInt16) : (s.relayLedger l sessionValidators format).Keeps I := by
  refine (keeps_freeBalance h _).bind fun _ => (keeps_storage h _ _ _).bind fun _ => ?_
  refine (keeps_storage h _ _ _).bind fun controller => ?_
  cases controller with
  | none => exact keeps_pure _
  | some controller =>
    iterate 3 refine (keeps_storage h _ _ _).bind fun _ => ?_
    exact keeps_pure _

theorem keeps_nominated (l : StashLedger) (format : UInt16) : (s.nominated l format).Keeps I := by
  refine (keeps_storage h _ _ _).bind fun controller => ?_
  cases controller with
  | none => exact (keeps_storage h _ _ _).bind fun _ => keeps_pure _
  | some controller =>
    exact (keeps_storage h _ _ _).bind fun _ => (keeps_storage h _ _ _).bind fun _ => keeps_pure _

end BlockStorage

section Readings

variable {σ : Type} {I : σ → Prop} {api : Api σ}

theorem keeps_stakingSnapshot (h : api.Keeps I) (q : StakingQuery) (block : UInt64) :
    (stakingSnapshot api q block).Keeps I := by
  refine Meets.bind (meets_atBlock h block) fun s hs => ?_
  refine (keeps_storage hs _ _ _).bind fun activeEra => ?_
  extract_lets rest
  have hrest : ∀ totalStaked, (rest totalStaked).Keeps I := by
    intro totalStaked
    refine Keeps.bind ((keeps_storage hs _ _ _).bind fun _ => keeps_pure _) fun _ => ?_
    refine Keeps.bind (meets_mapM (fun l => BlockStorage.keeps_relayLedger hs l _ _) q.stashes)
      fun _ => ?_
    refine Keeps.bind (keeps_optionMapM (fun _ => ?_) q.payoutAccount) fun _ => ?_
    · exact (BlockStorage.keeps_freeBalance hs _).bind fun _ => keeps_pure _
    iterate 3
      refine Keeps.bind ((keeps_storage hs _ _ _).bind fun _ => keeps_pure _) fun _ => ?_
    exact keeps_pure _
  cases activeEra with
  | none => exact hrest _
  | some era => exact Keeps.bind ((keeps_storage hs _ _ _).bind fun _ => keeps_pure _) hrest

theorem keeps_activeEraIndex (h : api.Keeps I) (block : UInt64) :
    (activeEraIndex api block).Keeps I := by
  refine Meets.bind (meets_atBlock h block) fun s hs => (keeps_storage hs _ _ _).bind fun era => ?_
  cases era with
  | none => exact keeps_throw _
  | some era => exact keeps_pure _

theorem meets_sideBySide {α β : Type} {read : α → Action σ Interruption β} {R : α → β → Prop}
    (hread : ∀ a, (read a).Meets I (R a)) (l : List α) :
    (sideBySide read l).Meets I (List.Forall₂ R l) := by
  induction l with
  | nil => exact meets_pure .nil
  | cons a l ih =>
    intro s hs
    obtain ⟨hkept, hanswer⟩ := hread a s hs
    unfold sideBySide
    generalize read a s = first at hkept hanswer ⊢
    obtain ⟨(e | _) | b, t⟩ := first
    · exact ⟨hkept, fun _ hresults => by cases hresults⟩
    all_goals
      obtain ⟨hkept, hothers⟩ := ih t hkept
      dsimp only
      generalize sideBySide read l t = rest at hkept hothers ⊢
      obtain ⟨e | bs, u⟩ := rest
    case cons.ok.ok =>
      refine ⟨hkept, fun results hresults => ?_⟩
      cases hresults
      exact .cons (hanswer b rfl) (hothers bs rfl)
    all_goals exact ⟨hkept, fun _ hresults => by cases hresults⟩

theorem keeps_validatorsInfo (h : api.Keeps I) (stashes : List StashLedger) (format : UInt16)
    (block : UInt64) : (validatorsInfo api stashes format block).Keeps I := by
  refine Meets.bind (meets_atBlock h block) fun s hs => ?_
  exact (meets_sideBySide (fun l => BlockStorage.keeps_nominated hs l format) stashes).keeps

theorem keeps_findEraStart {ε : Type} {eraAt : UInt64 → Action σ ε UInt32}
    (h : ∀ block, (eraAt block).Keeps I) (era : UInt32) (low high : UInt64) :
    (findEraStart eraAt era low high).Keeps I := by
  intro s hs
  obtain ⟨calls, hsearch⟩ := search_findEraStart eraAt era low high s
  have hreads : ∀ block, (eraAt block).Meets I fun _ => True := h
  exact ⟨(hsearch.answers hreads hs).1, fun _ _ => trivial⟩

end Readings
end Relay

namespace Link

open StakingIndexer.Action

variable {σ : Type} {I : σ → Prop} {l : Link σ} {logs : LogCall σ}

theorem keeps_fetchEvents (hconnect : ∀ e, (l.connect e).Keeps I)
    (hreader : ∀ r s, I s → I (l.setReader r s)) (hlogs : ∀ w e, (logs w e).Keeps I)
    (w : BlockWindow) : (l.fetchEvents logs w).Keeps I := by
  have hgather : ∀ windows, (l.gather logs windows).Keeps I := by
    intro windows
    induction windows with
    | nil => exact keeps_pure []
    | cons w rest ih =>
      refine Keeps.bind (run_meets hconnect hreader (hlogs w) _) fun _ => ?_
      exact ih.bind fun _ => keeps_pure _
  intro s hs
  exact Meets.map (hgather _) (fun _ _ => trivial) s hs

end Link

/-- A link behind which nothing changes an invariant. -/
structure NodeLink.Keeps {σ ρ : Type} (I : σ → Prop) (l : NodeLink σ ρ) : Prop where
  setReader : ∀ r s, I s → I (l.setReader r s)
  connect : ∀ e, (l.connect e).Keeps I
  api : ∀ e, (l.api e).Keeps I

theorem NodeLink.Keeps.read {σ ρ α : Type} {I : σ → Prop} {l : NodeLink σ ρ} (h : l.Keeps I)
    {reading : Rpc.Api σ ρ → Action σ Interruption α}
    (hreading : ∀ {api : Rpc.Api σ ρ}, api.Keeps I → (reading api).Keeps I) (op : String) :
    (l.read op reading).Keeps I :=
  Link.run_meets h.connect h.setReader (fun e => hreading (h.api e)) op

namespace ChainSources

variable {σ : Type} {I : σ → Prop} {src : ChainSources σ}

theorem keeps_stashes (h : src.parachain.Keeps I) (source : Contract.StashSource) :
    (src.stashes source).Keeps I :=
  (h.read Contract.keeps_currentHeight _).bind fun _ =>
    h.read (fun hapi => Contract.View.keeps_stashLedgers hapi source) _

end ChainSources
end StakingIndexer
