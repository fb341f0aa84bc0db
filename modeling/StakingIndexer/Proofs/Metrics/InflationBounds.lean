import Mathlib
import StakingIndexer.Configuration.Arguments
import StakingIndexer.Configuration.Check
import StakingIndexer.Scan.RelayStateTarget

/-!
# Bounds of the inflation

A configuration is refused if its least inflation exceeds the greatest one, and inflation is
clamped only if the least is at most the greatest. For numbers this is the same. A bound that is
not a number neither exceeds the other nor is at most that, so it is accepted and aborts a scan.
-/

namespace StakingIndexer

/-! ## The order of floats -/

namespace FloatOrder

open Float.Model

def compare? (x y : Float) : Option Ordering := x.toModel.unpack.compare y.toModel.unpack

theorem unpacked_compare_swap (a b : UnpackedFloat) :
    b.compare a = (a.compare b).map Ordering.swap := by
  have hint (e f : Int) : (compare e f).swap = compare f e := Std.OrientedOrd.eq_swap.symm
  have hnat (m n : Nat) : (compare m n).swap = compare n m := Std.OrientedOrd.eq_swap.symm
  cases a with
  | notANumber => cases b <;> rfl
  | zero s =>
    cases b with
    | infinity t | finite t => cases t <;> rfl
    | _ => rfl
  | infinity s =>
    cases s <;> cases b with
    | infinity t | finite t => cases t <;> rfl
    | _ => rfl
  | finite s =>
    cases s <;> cases b with
    | infinity t => cases t <;> rfl
    | finite t => cases t <;> simp [UnpackedFloat.compare, Ordering.swap_then, hint, hnat]
    | _ => rfl

theorem unpacked_compare_eq_none (a b : UnpackedFloat) :
    a.compare b = none ↔ a.isNaN ∨ b.isNaN := by
  cases a with
  | notANumber => simp [UnpackedFloat.compare, UnpackedFloat.isNaN]
  | zero s =>
    cases b with
    | infinity t | finite t => cases t <;> simp [UnpackedFloat.compare, UnpackedFloat.isNaN]
    | _ => simp [UnpackedFloat.compare, UnpackedFloat.isNaN]
  | infinity s => cases s <;> cases b <;> simp [UnpackedFloat.compare, UnpackedFloat.isNaN]
  | finite s =>
    cases s <;> cases b with
    | infinity t | finite t => cases t <;> simp [UnpackedFloat.compare, UnpackedFloat.isNaN]
    | _ => simp [UnpackedFloat.compare, UnpackedFloat.isNaN]

theorem compare?_swap (x y : Float) : compare? y x = (compare? x y).map Ordering.swap :=
  unpacked_compare_swap _ _

theorem compare?_eq_none (x y : Float) : compare? x y = none ↔ x.isNaN ∨ y.isNaN :=
  unpacked_compare_eq_none _ _

theorem le_iff_compare? (x y : Float) : x ≤ y ↔ (compare? x y).any Ordering.isLE := by
  change decide _ = true ↔ _
  rw [decide_eq_true_iff]
  rfl

theorem lt_iff_compare? (x y : Float) : x < y ↔ compare? x y = some .lt := by
  change decide _ = true ↔ _
  rw [decide_eq_true_iff, ← beq_iff_eq]
  rfl

theorem le_iff (x y : Float) : x ≤ y ↔ ¬ y < x ∧ ¬ (x.isNaN ∨ y.isNaN) := by
  rw [le_iff_compare?, lt_iff_compare?, ← compare?_eq_none, compare?_swap x y]
  rcases compare? x y with _ | order
  · simp
  · cases order <;> simp

end FloatOrder

/-! ## Inflation within its bounds -/

namespace Metrics

/-- The staked fraction up to which inflation rises. -/
def idealStake (c : ProtocolConstants) (auctions : UInt32) : Float :=
  c.stakeTarget - (min c.auctionMax auctions).toFloat * c.auctionAdjust

theorem clamp?_eq_none (x low high : Float) : clamp? x low high = none ↔ ¬ low ≤ high := by
  unfold clamp?
  split_ifs with h <;> simp [h]

theorem inflationRate_eq_none (c : ProtocolConstants) (auctions : UInt32)
    (staked issuance : Amount) : inflationRate c auctions staked issuance = none ↔
      ¬ idealStake c auctions ≤ 0.0 ∧ ¬ c.minInflation ≤ c.maxInflation := by
  change (if idealStake c auctions ≤ 0.0 then some _ else Option.map _ (clamp? _ _ _)) = none ↔ _
  by_cases h : idealStake c auctions ≤ 0.0
  · simp [h]
  · rw [if_neg h, Option.map_eq_none_iff, clamp?_eq_none]
    simp [h]

end Metrics

/-! ## Accepted configurations -/

namespace Configuration

def ReachesNodes (urls : List String) : Prop :=
  (∃ url ∈ urls, Text.isBlankText url = false) ∧ ∀ url ∈ urls, isWebsocket url

instance (urls : List String) : Decidable (ReachesNodes urls) :=
  inferInstanceAs (Decidable (_ ∧ _))

theorem checkUrls_eq_ok (list : String) (urls : List String) :
    checkUrls list urls = .ok () ↔ ReachesNodes urls := by
  have hblank : urls.all Text.isBlankText = false ↔ ∃ url ∈ urls, Text.isBlankText url = false := by
    rw [List.all_eq_false]
    simp
  have hforeign : urls.find? (!isWebsocket ·) = none ↔ ∀ url ∈ urls, isWebsocket url := by
    rw [List.find?_eq_none]
    simp
  rw [ReachesNodes, ← hblank, ← hforeign, checkUrls]
  cases urls.all Text.isBlankText with
  | true => simp
  | false => cases urls.find? (!isWebsocket ·) <;> simp

theorem check_eq_ok (c : Configuration) : c.check = .ok () ↔
    ReachesNodes c.parachainUrls ∧ ReachesNodes c.relayUrls ∧
      ¬ c.constants.aprMax < c.constants.aprMin ∧ (∀ x ∈ c.positives, x.2 ≠ 0) ∧
      ¬ c.constants.maxInflation < c.constants.minInflation := by
  have hpositive : c.positives.find? (·.2 = 0) = none ↔ ∀ x ∈ c.positives, x.2 ≠ 0 := by
    rw [List.find?_eq_none]
    simp
  rw [← checkUrls_eq_ok "WS_URLS_PARA", ← checkUrls_eq_ok "WS_URLS_RELAY", ← hpositive, check]
  cases checkUrls "WS_URLS_PARA" c.parachainUrls with
  | error e => simp [bind, Except.bind]
  | ok =>
    cases checkUrls "WS_URLS_RELAY" c.relayUrls with
    | error e => simp [bind, Except.bind]
    | ok =>
      by_cases hapr : c.constants.aprMax < c.constants.aprMin
      · simp [bind, Except.bind, hapr]
      · by_cases hinflation : c.constants.maxInflation < c.constants.minInflation <;>
          cases c.positives.find? (·.2 = 0) <;>
          simp [bind, Except.bind, pure, Except.pure, hapr, hinflation]

end Configuration

namespace RelayStateTarget

variable {ω : Type}

/-- A scan is aborted just if it has read a snapshot that the constants give no inflation. -/
theorem scan_aborted (c : ProtocolConstants) (src : Sources ω) (payout : Option PayoutAccount)
    (format : UInt16) (window : BlockWindow) (state : AggregateState) (w : ω) :
    (scan c src payout format window state w).1 = .aborted ↔
      ∃ snapshot eraStart reports,
        (readInputs c src payout format window.last w).1 = .ok (snapshot, eraStart, reports) ∧
        Metrics.inflationRate c snapshot.auctions snapshot.totalStaked snapshot.totalIssuance
          = none := by
  unfold scan
  cases hread : readInputs c src payout format window.last w with
  | mk result w' =>
    cases result with
    | error e => simp
    | ok inputs =>
      obtain ⟨snapshot, eraStart, reports⟩ := inputs
      cases hinflation : Metrics.inflationRate c snapshot.auctions snapshot.totalStaked
          snapshot.totalIssuance with
      | none => simp [output?, delta?, hinflation]
      | some inflation => simp [output?, delta?, hinflation]

end RelayStateTarget

/-- Under an accepted configuration inflation has no value, and a scan of the relay chain's state
is aborted, just if the ideal stake is not at most zero and a bound is not a number. -/
theorem Configuration.inflation_of_accepted (c : Configuration) (h : c.check = .ok ()) :
    (∀ auctions staked issuance,
      Metrics.inflationRate c.constants auctions staked issuance = none ↔
        ¬ Metrics.idealStake c.constants auctions ≤ 0.0 ∧
          (c.constants.minInflation.isNaN ∨ c.constants.maxInflation.isNaN)) ∧
    ∀ (ω : Type) (src : RelayStateTarget.Sources ω) payout format window state w,
      (RelayStateTarget.scan c.constants src payout format window state w).1 = .aborted ↔
        ∃ snapshot eraStart reports,
          (RelayStateTarget.readInputs c.constants src payout format window.last w).1
            = .ok (snapshot, eraStart, reports) ∧
          ¬ Metrics.idealStake c.constants snapshot.auctions ≤ 0.0 ∧
          (c.constants.minInflation.isNaN ∨ c.constants.maxInflation.isNaN) := by
  have hbounds : ¬ c.constants.minInflation ≤ c.constants.maxInflation ↔
      c.constants.minInflation.isNaN ∨ c.constants.maxInflation.isNaN := by
    have hnotAbove := ((check_eq_ok c).1 h).2.2.2.2
    -- A least bound that is not above the greatest one fails to be below it only without order.
    rw [FloatOrder.le_iff, not_and_or, not_not, not_not]
    exact or_iff_right hnotAbove
  have hinflation (auctions : UInt32) (staked issuance : Amount) :
      Metrics.inflationRate c.constants auctions staked issuance = none ↔
        ¬ Metrics.idealStake c.constants auctions ≤ 0.0 ∧
          (c.constants.minInflation.isNaN ∨ c.constants.maxInflation.isNaN) := by
    rw [Metrics.inflationRate_eq_none, hbounds]
  constructor
  · exact hinflation
  · intro ω src payout format window state w
    rw [RelayStateTarget.scan_aborted]
    simp only [hinflation]

def nanArguments : List String :=
  ["--ws-urls-para=ws://para", "--ws-urls-relay=ws://relay", "--database-url=db",
    "--nimbus-contract-address=0x0101010101010101010101010101010101010101",
    "--oracle-master-contract-address=0x0202020202020202020202020202020202020202",
    "--withdrawal-contract-address=0x0303030303030303030303030303030303030303",
    "--xctoken-contract-address=0x0404040404040404040404040404040404040404",
    "--controller-contract-address=0x0505050505050505050505050505050505050505",
    "--max-inflation=nan"]

def nanBound : Configuration :=
  { Configuration.standard with
    parachainUrls := ["ws://para"]
    relayUrls := ["ws://relay"]
    databaseUrl := "db"
    constants := { ProtocolConstants.standard with maxInflation := .nan }
    addresses :=
      { nimbus := .ofNat 0x0101010101010101010101010101010101010101
        oracleMaster := .ofNat 0x0202020202020202020202020202020202020202
        withdrawal := .ofNat 0x0303030303030303030303030303030303030303
        xctoken := .ofNat 0x0404040404040404040404040404040404040404
        controller := .ofNat 0x0505050505050505050505050505050505050505 } }

theorem ofArguments_nanArguments :
    Configuration.ofArguments nanArguments (fun _ => none) = .ok nanBound := by
  rfl

theorem check_nanBound : nanBound.check = .ok () := by
  rw [Configuration.check_eq_ok]
  decide +kernel

theorem Configuration.inflation_of_accepted_nanBound :
    nanBound.check = .ok () ∧
      ∀ staked issuance, Metrics.inflationRate nanBound.constants 0 staked issuance = none := by
  have hideal : ¬ Metrics.idealStake nanBound.constants 0 ≤ 0.0 := by decide +kernel
  have hnan : nanBound.constants.maxInflation.isNaN := by decide +kernel
  constructor
  · exact check_nanBound
  · intro staked issuance
    rw [(inflation_of_accepted nanBound check_nanBound).1]
    exact ⟨hideal, .inr hnan⟩

/-- A command line can be accepted although its constants give no inflation. -/
theorem nanArguments_accepted :
    ∃ c, Configuration.ofArguments nanArguments (fun _ => none) = .ok c ∧ c.check = .ok () ∧
      Metrics.inflationRate c.constants 0 .zero .zero = none := by
  have hnone : (Metrics.inflationRate nanBound.constants 0 .zero .zero).isNone := by
    decide +kernel
  exact ⟨nanBound, ofArguments_nanArguments, check_nanBound, Option.isNone_iff_eq_none.1 hnone⟩

end StakingIndexer
