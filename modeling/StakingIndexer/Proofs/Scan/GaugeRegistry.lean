import Mathlib
import StakingIndexer.Proofs.Endpoint.HealthGauge
import StakingIndexer.Proofs.Reader.Frame
import StakingIndexer.Scan.LocalIndexer
import StakingIndexer.Scan.LocalNodes

/-!
# The gauges around a loop

A loop publishes in the registry in which the pools behind its target set the numbers of their
healthy endpoints. Apart from what the loop publishes, these are the only gauges that change: the
calls to targets and stores set no others. It is so for every loop of an indexer.
-/

namespace StakingIndexer

open StakingIndexer.Action

/-- What a loop asks of its target and of its store. -/
inductive ScanLoop.Asks {ω : Type} (l : ScanLoop ω) (w : ω) : ω → Prop
  | currentHeight : l.Asks w (l.target.currentHeight w).2
  | scan (window : BlockWindow) (state : AggregateState) :
    l.Asks w (l.target.scan window state w).2
  | hydrate (state : AggregateState) : l.Asks w (l.target.hydrate state w).2
  | loadCursor : l.Asks w (l.store.loadCursor l.target.chain l.target.id w).2
  | loadState : l.Asks w (l.store.loadState l.target.chain w).2
  | commit (cursor : ScanCursor) (delta : AggregateDelta) :
    l.Asks w (l.store.commit cursor delta w).2

/-- A registry in which a loop publishes its gauges, and in which what the loop asks for sets none
but the pools' own. -/
structure GaugeRegistry {ω : Type} (l : ScanLoop ω) where
  publisher : ω → Publisher
  publish : ∀ g w, publisher (l.publish g w) = (publisher w).set g
  asks : ∀ {w w'}, l.Asks w w' →
    (publisher w').AgreeOutside EndpointPool.healthKeys (publisher w)

theorem GaugeRegistry.asked {ω α : Type} {l : ScanLoop ω} (r : GaugeRegistry l) {f : ω → α × ω}
    {w w' : ω} {answer : α} (hasks : l.Asks w (f w).2) (h : f w = (answer, w')) :
    (r.publisher w').AgreeOutside EndpointPool.healthKeys (r.publisher w) := by
  rw [h] at hasks
  exact r.asks hasks

section Scans

variable {ω : Type} {I : ω → Prop}

theorem EventsTarget.keeps_hydrate {store : CheckpointStore ω}
    (h : ∀ limit, (store.recentRewards limit).Keeps I) (a : EventAggregator)
    (state : AggregateState) : (hydrate a store state).Keeps I :=
  Keeps.bind ((h _).mapError _) fun _ => keeps_pure _

theorem EventsTarget.scan_keeps {link : Link ω} {logs : Link.LogCall ω} {window : BlockWindow}
    (h : (link.fetchEvents logs window).Keeps I) (a : EventAggregator) (state : AggregateState)
    {w : ω} (hw : I w) : I (scan a link logs window state w).2 := by
  have hkept := (h w hw).1
  unfold scan
  generalize link.fetchEvents logs window w = r at hkept ⊢
  obtain ⟨e | events, w'⟩ := r
  · exact hkept
  · dsimp only
    cases a.apply state events [] <;> exact hkept

theorem ParachainStateTarget.keeps_scan {parachain : NodeLink ω Contract.Request}
    (h : parachain.Keeps I) (a : EventAggregator) (addresses : ContractAddresses)
    (price : Option (ω → Option Float)) (window : BlockWindow) (state : AggregateState) :
    (scan a parachain addresses price window state).Keeps I := by
  refine Keeps.bind ((h.read (fun hapi => ?_) _).mapError _) fun snapshot => ?_
  · exact Contract.View.keeps_snapshot hapi
  refine keeps_get.bind fun w => Keeps.bind ((keeps_ofExcept _).mapError _) fun out => ?_
  exact keeps_pure _

theorem ValidatorsInfoTarget.keeps_scan (src : ChainSources ω) (hparachain : src.parachain.Keeps I)
    (hrelay : src.relay.Keeps I) (format : UInt16) (window : BlockWindow)
    (state : AggregateState) : (scan src format window state).Keeps I := by
  refine Keeps.bind ((ChainSources.keeps_stashes hparachain _).mapError _) fun stashes => ?_
  refine Keeps.bind ((hrelay.read (fun hapi => ?_) _).mapError _) fun infos => keeps_pure _
  exact Relay.keeps_validatorsInfo hapi stashes format window.last

namespace RelayStateTarget

theorem keeps_eraStartBlock {src : Sources ω} (hrelay : src.relay.Keeps I)
    (hremember : ∀ start w, I w → I (src.rememberStart start w)) (c : ProtocolConstants)
    (era : UInt32) (head : UInt64) : (eraStartBlock c src era head).Keeps I := by
  have heras : ∀ block, (src.relay.read NodeLink.stateOp fun api =>
      Relay.activeEraIndex api block).Keeps I := fun block =>
    hrelay.read (fun hapi => Relay.keeps_activeEraIndex hapi block) _
  unfold eraStartBlock
  extract_lets eraAt low search
  have hsearch : search.Keeps I := by
    refine (Relay.keeps_findEraStart heras era low head).bind fun block => ?_
    exact Keeps.bind (meets_modify fun w hw => hremember _ w hw) fun _ => keeps_pure block
  refine keeps_get.bind fun w => ?_
  cases src.knownStart w with
  | none => exact hsearch
  | some known =>
    dsimp only
    split_ifs
    · exact keeps_pure known.block
    · exact hsearch

theorem scan_keeps (src : Sources ω) (hparachain : src.parachain.Keeps I)
    (hrelay : src.relay.Keeps I)
    (hstore : ∀ limit, (src.store.recentRewards limit).Keeps I)
    (hremember : ∀ start w, I w → I (src.rememberStart start w)) (c : ProtocolConstants)
    (payout : Option PayoutAccount) (format : UInt16) (window : BlockWindow)
    (state : AggregateState) {w : ω} (hw : I w) :
    I (scan c src payout format window state w).2 := by
  have hinputs : (readInputs c src payout format window.last).Keeps I := by
    refine Keeps.bind ((ChainSources.keeps_stashes hparachain _).mapError _) fun stashes => ?_
    refine Keeps.bind ((hrelay.read (fun hapi => ?_) _).mapError _) fun snapshot => ?_
    · exact Relay.keeps_stakingSnapshot hapi _ window.last
    refine Keeps.bind (keeps_optionMapM (fun era => ?_) snapshot.activeEra) fun start => ?_
    · exact (keeps_eraStartBlock hrelay hremember c era.index window.last).mapError _
    refine Keeps.bind ((hstore _).mapError _) fun month => ?_
    exact Keeps.bind ((hstore _).mapError _) fun week => keeps_pure _
  have hkept := (hinputs w hw).1
  unfold scan
  generalize readInputs c src payout format window.last w = r at hkept ⊢
  obtain ⟨e | ⟨snapshot, start, reports⟩, w'⟩ := r
  · exact hkept
  · dsimp only
    cases output? c state snapshot start reports (payout.map (·.address)) <;> exact hkept

end RelayStateTarget
end Scans

namespace LocalIndexer

variable {p : Publisher}

def gaugeRegistry (a : EventAggregator) (chain : Chain) (config : ScannerConfig)
    (initialBlock : UInt64) : GaugeRegistry (eventsLoop a chain config initialBlock) where
  publisher := (·.publisher)
  publish _ _ := rfl
  asks := by
    intro w w' h
    let I (w' : LocalIndexer) : Prop :=
      w'.publisher.AgreeOutside EndpointPool.healthKeys w.publisher
    have hpart : ∀ {α : Type} (x : Action LocalChain Interruption α), (onChain x).Keeps I :=
      fun _ _ hw => ⟨hw, fun _ _ => trivial⟩
    have hconnect : ∀ e, (link.connect e).Keeps I := fun _ => hpart _
    have hreader : ∀ r w', I w' → I (link.setReader r w') := fun r _ hw =>
      (r.pool.publishTo_agreeOutside _).trans hw
    have hheight : (link.run "current_height" height).Keeps I :=
      Link.run_meets hconnect hreader (fun _ => hpart _) _
    have hw : I w := .refl _
    cases h with
    | currentHeight => exact (hheight.mapError ScanError.chain w hw).1
    | scan window state =>
      refine EventsTarget.scan_keeps ?_ a state hw
      exact Link.keeps_fetchEvents hconnect hreader (fun _ _ => hpart _) window
    | hydrate | loadCursor | loadState | commit => exact hw

end LocalIndexer

namespace LocalNodes

variable {S : Type} {p : Publisher}

/-- Whether a registry differs from another in gauges of the pools at most. -/
def AgreesWith (p : Publisher) (w : LocalNodes S) : Prop :=
  w.publisher.AgreeOutside EndpointPool.healthKeys p

theorem keeps_connect (e : Endpoint) : (connect e).Keeps (AgreesWith (S := S) p) := by
  intro w hw
  unfold connect
  split_ifs <;> exact ⟨hw, fun _ _ => trivial⟩

theorem keeps_parachainLink : (parachainLink (S := S)).Keeps (AgreesWith p) where
  setReader r _ hw := (r.pool.publishTo_agreeOutside _).trans hw
  connect := keeps_connect
  api _ _ _ hw := hw

theorem keeps_relayLink : (relayLink (S := S)).Keeps (AgreesWith p) where
  setReader r _ hw := (r.pool.publishTo_agreeOutside _).trans hw
  connect := keeps_connect
  api _ _ _ hw := hw

variable (store : CheckpointStore S) (s : Settings) (price : Option (LocalNodes S → Option Float))

theorem keeps_currentHeight (id : TargetId) :
    (target store s price id).currentHeight.Keeps (AgreesWith p) := by
  have hparachain := keeps_parachainLink (S := S) (p := p)
  have hrelay := keeps_relayLink (S := S) (p := p)
  cases id with
  | events =>
    exact (hparachain.read Contract.keeps_currentHeight _).mapError _
  | parachainState =>
    exact (hparachain.read Contract.keeps_currentHeight _).mapError _
  | relayState | validatorsInfo =>
    exact (hrelay.read Relay.keeps_currentHeight _).mapError _

theorem scan_agrees (id : TargetId) (window : BlockWindow) (state : AggregateState)
    {w : LocalNodes S} (hw : AgreesWith p w) :
    AgreesWith p ((target store s price id).scan window state w).2 := by
  have hparachain := keeps_parachainLink (S := S) (p := p)
  have hrelay := keeps_relayLink (S := S) (p := p)
  cases id with
  | events =>
    refine EventsTarget.scan_keeps ?_ _ state hw
    exact Link.keeps_fetchEvents keeps_connect hparachain.setReader
      (fun window e => Contract.keeps_events (hparachain.api e) window) window
  | parachainState =>
    exact (ParachainStateTarget.keeps_scan hparachain _ _ price window state w hw).1
  | relayState =>
    exact RelayStateTarget.scan_keeps (sources store s.addresses) hparachain hrelay
      (fun _ _ hw => ⟨hw, fun _ _ => trivial⟩) (fun _ _ hw => hw) _ _ _ window state hw
  | validatorsInfo =>
    exact (ValidatorsInfoTarget.keeps_scan (sources store s.addresses).toChainSources
      hparachain hrelay _ window state w hw).1

def gaugeRegistry (config : ScannerConfig) (id : TargetId) :
    GaugeRegistry (scanLoop store s price config id) where
  publisher := (·.publisher)
  publish _ _ := rfl
  asks := by
    intro w w' h
    have hw : AgreesWith w.publisher w := .refl _
    cases h with
    | currentHeight => exact (keeps_currentHeight store s price id w hw).1
    | scan window state => exact scan_agrees store s price id window state hw
    | hydrate state =>
      cases id with
      | events =>
        exact (EventsTarget.keeps_hydrate (fun _ _ hw => ⟨hw, fun _ _ => trivial⟩) _ state w hw).1
      | parachainState | relayState | validatorsInfo => exact hw
    | loadCursor | loadState | commit => exact hw

end LocalNodes
end StakingIndexer
