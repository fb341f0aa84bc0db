import StakingIndexer.Bytes

/-!
# Keccak-256

The sponge with a rate of 136 bytes and the padding byte `0x01`, as used for
event signatures and for the capital letters of a checksummed address.
The state is a list of 25 lanes; lane `(x, y)` stands at `x + 5 * y`.
-/

namespace StakingIndexer
namespace Hash

namespace Keccak

def roundConstants : List UInt64 :=
  [0x0000000000000001, 0x0000000000008082, 0x800000000000808a, 0x8000000080008000,
   0x000000000000808b, 0x0000000080000001, 0x8000000080008081, 0x8000000000008009,
   0x000000000000008a, 0x0000000000000088, 0x0000000080008009, 0x000000008000000a,
   0x000000008000808b, 0x800000000000008b, 0x8000000000008089, 0x8000000000008003,
   0x8000000000008002, 0x8000000000000080, 0x000000000000800a, 0x800000008000000a,
   0x8000000080008081, 0x8000000000008080, 0x0000000080000001, 0x8000000080008008]

/-- How far each lane is rotated. -/
def rotations : List UInt64 :=
  [0, 1, 62, 28, 27, 36, 44, 6, 55, 20, 3, 10, 43, 25, 39, 41, 45, 15, 21, 8, 18, 2, 61, 56, 14]

/-- Add to every lane the parities of two neighbouring columns. -/
def theta (a : List UInt64) : List UInt64 :=
  let column x := (List.range 5).foldl (fun acc y => acc ^^^ a.getD (x + 5 * y) 0) 0
  let parities := (List.range 5).map column
  let effect := (List.range 5).map fun x =>
    parities.getD ((x + 4) % 5) 0 ^^^ rotateLeft (parities.getD ((x + 1) % 5) 0) 1
  a.zipWith (· ^^^ ·) (effect ++ effect ++ effect ++ effect ++ effect)

/-- Rotate the lanes and move them to their new places. -/
def rhoPi (a : List UInt64) : List UInt64 :=
  let turned := a.zipWith rotateLeft rotations
  (List.range 25).map fun i =>
    let x := i % 5
    turned.getD ((3 * (i / 5) + x) % 5 + 5 * x) 0

/-- Combine each lane with the next two of its row. -/
def chi (a : List UInt64) : List UInt64 :=
  (List.range 25).map fun i =>
    let row := 5 * (i / 5)
    a.getD i 0 ^^^ (~~~ a.getD (row + (i + 1) % 5) 0 &&& a.getD (row + (i + 2) % 5) 0)

/-- Add a round constant to the first lane. -/
def iota (c : UInt64) : List UInt64 → List UInt64
  | [] => []
  | lane :: rest => (lane ^^^ c) :: rest

def permute (a : List UInt64) : List UInt64 :=
  roundConstants.foldl (fun a c => iota c (chi (rhoPi (theta a)))) a

/-- Mix one block of 136 bytes into the state. -/
def absorb (a : List UInt64) (block : Bytes) : List UInt64 :=
  permute (a.zipWith (· ^^^ ·) (words 17 block ++ List.replicate 8 0))

/-- Fill the last block: a one bit after the message and a one bit at the end of the block. -/
def pad (rest : Bytes) : Bytes :=
  let free := 136 - rest.length
  if free = 1 then rest ++ [0x81] else rest ++ 0x01 :: List.replicate (free - 2) 0 ++ [0x80]

def absorbAll (a : List UInt64) (message : Bytes) : List UInt64 :=
  if message.length < 136 then absorb a (pad message)
  else absorbAll (absorb a (message.take 136)) (message.drop 136)
termination_by message.length
decreasing_by simp; omega

end Keccak

/-- The 32-byte digest of a message. -/
def keccak256 (message : Bytes) : Bytes :=
  (Keccak.absorbAll (List.replicate 25 0) message).take 4
    |>.flatMap fun lane => Bytes.ofNatLE 8 lane.toNat

end Hash
end StakingIndexer
