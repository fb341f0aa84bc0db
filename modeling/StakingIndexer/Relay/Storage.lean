import StakingIndexer.Hash.Blake2b
import StakingIndexer.Hash.XxHash

/-!
# Storage keys of the relay chain

A value is stored under the hashes of its pallet and its item; an entry of a map stands
under these and the hashed key of the entry. The hashers of keys keep the key behind its
hash, so that it can be read back.
-/

namespace StakingIndexer
namespace Hash

/-- Eight bytes of XXH64. -/
def twox64 (data : Bytes) : Bytes := Bytes.ofNatLE 8 (xxh64 0 data).toNat

/-- Sixteen bytes: XXH64 under the seeds zero and one. -/
def twox128 (data : Bytes) : Bytes :=
  Bytes.ofNatLE 8 (xxh64 0 data).toNat ++ Bytes.ofNatLE 8 (xxh64 1 data).toNat

def blake2b128 (data : Bytes) : Bytes := blake2b 16 data

/-- How the key of a storage map is hashed. -/
inductive MapHasher where
  | twox64Concat
  | blake2b128Concat
deriving DecidableEq

namespace MapHasher

/-- The hash of a key followed by the key itself. -/
def apply : MapHasher → Bytes → Bytes
  | twox64Concat, key => twox64 key ++ key
  | blake2b128Concat, key => blake2b128 key ++ key

end MapHasher
end Hash

namespace Storage

/-- The key of a stored value. -/
def valueKey (pallet item : String) : Bytes :=
  Hash.twox128 pallet.toUTF8.toList ++ Hash.twox128 item.toUTF8.toList

/-- The key of an entry of a stored map. -/
def mapKey (pallet item : String) (hasher : Hash.MapHasher) (key : Bytes) : Bytes :=
  valueKey pallet item ++ hasher.apply key

end Storage

end StakingIndexer
