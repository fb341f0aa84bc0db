import StakingIndexer.Bytes

/-!
# XXH64

The 64-bit hash that names pallets and items in chain storage.
-/

namespace StakingIndexer
namespace Hash
namespace XxHash

def prime1 : UInt64 := 0x9e3779b185ebca87
def prime2 : UInt64 := 0xc2b2ae3d27d4eb4f
def prime3 : UInt64 := 0x165667b19e3779f9
def prime4 : UInt64 := 0x85ebca77c2b2ae63
def prime5 : UInt64 := 0x27d4eb2f165667c5

/-- Advance one accumulator by a word of input. -/
def advance (acc word : UInt64) : UInt64 := rotateLeft (acc + word * prime2) 31 * prime1

/-- Fold a finished accumulator into the hash. -/
def merge (h acc : UInt64) : UInt64 := (h ^^^ advance 0 acc) * prime1 + prime4

/-- The four accumulators, advanced in parallel by stripes of 32 bytes. -/
structure Lanes where
  a : UInt64
  b : UInt64
  c : UInt64
  d : UInt64

namespace Lanes

def start (seed : UInt64) : Lanes := ⟨seed + prime1 + prime2, seed + prime2, seed, seed - prime1⟩

def stripe (v : Lanes) (bs : Bytes) : Lanes :=
  ⟨advance v.a (wordOfBytes (bs.take 8)), advance v.b (wordOfBytes ((bs.drop 8).take 8)),
   advance v.c (wordOfBytes ((bs.drop 16).take 8)), advance v.d (wordOfBytes ((bs.drop 24).take 8))⟩

def converge (v : Lanes) : UInt64 :=
  let h := rotateLeft v.a 1 + rotateLeft v.b 7 + rotateLeft v.c 12 + rotateLeft v.d 18
  merge (merge (merge (merge h v.a) v.b) v.c) v.d

end Lanes

/-- Consume whole stripes, returning the accumulators and the rest. -/
def stripes (v : Lanes) (bs : Bytes) : Lanes × Bytes :=
  if bs.length < 32 then (v, bs) else stripes (v.stripe bs) (bs.drop 32)
termination_by bs.length
decreasing_by simp; omega

/-- Fold in the last bytes: words, then half a word, then single bytes. -/
def tail (h : UInt64) (bs : Bytes) : UInt64 :=
  if 8 ≤ bs.length then
    tail (rotateLeft (h ^^^ advance 0 (wordOfBytes (bs.take 8))) 27 * prime1 + prime4) (bs.drop 8)
  else if 4 ≤ bs.length then
    tail (rotateLeft (h ^^^ wordOfBytes (bs.take 4) * prime1) 23 * prime2 + prime3) (bs.drop 4)
  else
    bs.foldl (fun h b => rotateLeft (h ^^^ b.toUInt64 * prime5) 11 * prime1) h
termination_by bs.length
decreasing_by all_goals simp; omega

def avalanche (h : UInt64) : UInt64 :=
  let h := (h ^^^ h >>> 33) * prime2
  let h := (h ^^^ h >>> 29) * prime3
  h ^^^ h >>> 32

end XxHash

/-- The hash of a message under a seed. -/
def xxh64 (seed : UInt64) (message : Bytes) : UInt64 :=
  let body :=
    if message.length < 32 then (seed + XxHash.prime5, message)
    else
      let (v, rest) := XxHash.stripes (XxHash.Lanes.start seed) message
      (v.converge, rest)
  XxHash.avalanche (XxHash.tail (body.1 + UInt64.ofNat message.length) body.2)

end Hash
end StakingIndexer
