import StakingIndexer.Relay.Account

/-!
# Records of the staking pallet

The records that the relay chain stores about eras, stakes, nominations and accounts,
and their codecs. A record of a later version of the chain may go on behind the fields
that are read here.
-/

namespace StakingIndexer

/-- The era in which the validators are paid now. Its start, in milliseconds, is absent
until the first block of the era. -/
structure ActiveEra where
  index : UInt32
  start : Option UInt64
deriving DecidableEq, Inhabited

namespace ActiveEra

def codec : Codec ActiveEra :=
  (Codec.u32.pair (.option .u64)).map (fun r => ⟨r.1, r.2⟩) fun e => (e.index, e.start)

end ActiveEra

/-- A part of a stake that is being unbonded, and the era from which on it is free. -/
structure UnlockingChunk where
  value : Balance
  era : UInt32
deriving DecidableEq, Inhabited

namespace UnlockingChunk

def codec : Codec UnlockingChunk :=
  (Balance.compactCodec.pair ((Codec.compact 4).map UInt32.ofNat UInt32.toNat)).map
    (fun r => ⟨r.1, r.2⟩) fun c => (c.value, c.era)

end UnlockingChunk

/-- The stake of a controller. The total includes the unlocking parts. -/
structure StakingLedger where
  stash : AccountId
  total : Balance
  active : Balance
  unlocking : List UnlockingChunk
deriving DecidableEq, Inhabited

namespace StakingLedger

def codec : Codec StakingLedger :=
  (AccountId.codec.pair (Balance.compactCodec.pair
      (Balance.compactCodec.pair (.list UnlockingChunk.codec)))).map
    (fun r => ⟨r.1, r.2.1, r.2.2.1, r.2.2.2⟩) fun l => (l.stash, l.total, l.active, l.unlocking)

/-- The sum of the unlocking parts, which stops at the greatest balance. -/
def totalUnlocking (l : StakingLedger) : Balance :=
  l.unlocking.foldl (fun acc c => acc.satAdd c.value) .zero

/-- The first era in which a part is free, zero without parts. -/
def earliestUnlockingEra (l : StakingLedger) : UInt32 :=
  ((l.unlocking.map (·.era)).min?).getD 0

end StakingLedger

/-- The validators that an account nominates, and whether a slash has suspended this. -/
structure Nominations where
  targets : List AccountId
  submittedIn : UInt32
  suppressed : Bool
deriving DecidableEq, Inhabited

namespace Nominations

def codec : Codec Nominations :=
  ((Codec.list AccountId.codec).pair (Codec.u32.pair .bool)).map
    (fun r => ⟨r.1, r.2.1, r.2.2⟩) fun n => (n.targets, n.submittedIn, n.suppressed)

end Nominations

/-- An account of the relay chain with its balances. -/
structure AccountInfo where
  nonce : UInt32
  consumers : UInt32
  providers : UInt32
  sufficients : UInt32
  free : Balance
  reserved : Balance
  frozen : Balance
  flags : Balance
deriving DecidableEq, Inhabited

namespace AccountInfo

def codec : Codec AccountInfo :=
  (Codec.u32.pair (Codec.u32.pair (Codec.u32.pair (Codec.u32.pair (Balance.codec.pair
      (Balance.codec.pair (Balance.codec.pair Balance.codec))))))).map
    (fun (nonce, consumers, providers, sufficients, free, reserved, frozen, flags) =>
      ⟨nonce, consumers, providers, sufficients, free, reserved, frozen, flags⟩)
    fun a =>
      (a.nonce, a.consumers, a.providers, a.sufficients, a.free, a.reserved, a.frozen, a.flags)

end AccountInfo
end StakingIndexer
