import StakingIndexer.Bytes

/-!
# BLAKE2b without a key

Digests of any length up to 64 bytes. Storage keys use 16 bytes of it and address
checksums the first two of 64.
-/

namespace StakingIndexer
namespace Hash
namespace Blake2b

def initial : List UInt64 :=
  [0x6a09e667f3bcc908, 0xbb67ae8584caa73b, 0x3c6ef372fe94f82b, 0xa54ff53a5f1d36f1,
   0x510e527fade682d1, 0x9b05688c2b3e6c1f, 0x1f83d9abfb41bd6b, 0x5be0cd19137e2179]

/-- The order in which each of the twelve rounds takes the message words. -/
def schedule : List (List Nat) :=
  let first := [0, 1, 2, 3, 4, 5, 6, 7, 8, 9, 10, 11, 12, 13, 14, 15]
  let second := [14, 10, 4, 8, 9, 15, 13, 6, 1, 12, 0, 2, 11, 7, 5, 3]
  [first, second,
   [11, 8, 12, 0, 5, 2, 15, 13, 10, 14, 3, 6, 7, 1, 9, 4],
   [7, 9, 3, 1, 13, 12, 11, 14, 2, 6, 5, 10, 4, 0, 15, 8],
   [9, 0, 5, 7, 2, 4, 10, 15, 14, 1, 11, 12, 6, 8, 3, 13],
   [2, 12, 6, 10, 0, 11, 8, 3, 4, 13, 7, 5, 15, 14, 1, 9],
   [12, 5, 1, 15, 14, 13, 4, 10, 0, 7, 6, 3, 9, 2, 8, 11],
   [13, 11, 7, 14, 12, 1, 3, 9, 5, 0, 15, 4, 8, 6, 2, 10],
   [6, 15, 14, 9, 11, 3, 0, 8, 12, 2, 13, 7, 1, 4, 10, 5],
   [10, 2, 8, 4, 7, 6, 1, 5, 15, 11, 9, 14, 3, 12, 13, 0],
   first, second]

/-- Mix two message words into four words of the working vector. -/
def mix (v : List UInt64) (a b c d : Nat) (x y : UInt64) : List UInt64 :=
  let va := v.getD a 0 + v.getD b 0 + x
  let vd := rotateLeft (v.getD d 0 ^^^ va) 32
  let vc := v.getD c 0 + vd
  let vb := rotateLeft (v.getD b 0 ^^^ vc) 40
  let va := va + vb + y
  let vd := rotateLeft (vd ^^^ va) 48
  let vc := vc + vd
  let vb := rotateLeft (vb ^^^ vc) 1
  (((v.set a va).set b vb).set c vc).set d vd

/-- The columns, then the diagonals, of the working vector. -/
def lines : List (Nat × Nat × Nat × Nat) :=
  [(0, 4, 8, 12), (1, 5, 9, 13), (2, 6, 10, 14), (3, 7, 11, 15),
   (0, 5, 10, 15), (1, 6, 11, 12), (2, 7, 8, 13), (3, 4, 9, 14)]

def round (m v : List UInt64) (order : List Nat) : List UInt64 :=
  let word i := m.getD (order.getD i 0) 0
  (lines.zip (List.range 8)).foldl
    (fun v line => mix v line.1.1 line.1.2.1 line.1.2.2.1 line.1.2.2.2
      (word (2 * line.2)) (word (2 * line.2 + 1))) v

/-- Fold one block of 128 bytes into the chaining value. `count` is the number of
message bytes seen so far, this block included. -/
def compress (h : List UInt64) (block : Bytes) (count : Nat) (last : Bool) : List UInt64 :=
  let m := words 16 block
  let finish : UInt64 := if last then 0xffffffffffffffff else 0
  let tweak : List UInt64 :=
    [0, 0, 0, 0, UInt64.ofNat count, UInt64.ofNat (count >>> 64), finish, 0]
  let v := schedule.foldl (round m) (h ++ initial.zipWith (· ^^^ ·) tweak)
  (h.zipWith (· ^^^ ·) (v.take 8)).zipWith (· ^^^ ·) (v.drop 8)

def absorb (h : List UInt64) (message : Bytes) (count : Nat) : List UInt64 :=
  if message.length ≤ 128 then compress h message (count + message.length) true
  else absorb (compress h (message.take 128) (count + 128) false) (message.drop 128) (count + 128)
termination_by message.length
decreasing_by simp; omega

end Blake2b

/-- The digest of a message, `size` bytes long. -/
def blake2b (size : Nat) (message : Bytes) : Bytes :=
  let parameters : UInt64 := 0x01010000 ^^^ UInt64.ofNat size
  let start := Blake2b.initial.zipWith (· ^^^ ·) (parameters :: List.replicate 7 0)
  ((Blake2b.absorb start message 0).flatMap fun word => Bytes.ofNatLE 8 word.toNat).take size

end Hash
end StakingIndexer
