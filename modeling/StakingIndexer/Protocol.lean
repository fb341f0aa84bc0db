/-!
# Constants of the staking protocol
-/

namespace StakingIndexer

/-- The economic constants of the relay chain and of the pool. `stakeTarget` is the ideal
staked fraction of the issuance, which each of up to `auctionMax` auctions lowers by
`auctionAdjust`; `falloff` is how fast inflation decays beyond it. Reports are averaged if
their yearly return, in percent, is between `aprMin` and `aprMax`. -/
structure ProtocolConstants where
  stakeTarget : Float
  auctionMax : UInt32
  auctionAdjust : Float
  maxInflation : Float
  minInflation : Float
  falloff : Float
  eraDurationInBlocks : UInt64
  erasPerDay : UInt64
  aprMin : Float
  aprMax : Float

namespace ProtocolConstants

/-- The constants of a relay chain with eras of six hours. -/
def standard : ProtocolConstants where
  stakeTarget := 0.75
  auctionMax := 60
  auctionAdjust := 0.0
  maxInflation := 0.1
  minInflation := 0.025
  falloff := 0.05
  eraDurationInBlocks := 600
  erasPerDay := 4
  aprMin := 3.0
  aprMax := 45.0

end ProtocolConstants
end StakingIndexer
