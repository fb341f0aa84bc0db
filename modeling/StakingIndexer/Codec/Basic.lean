import StakingIndexer.Bytes

/-!
# Codecs of byte strings

A codec writes values as bytes and reads a value off the front of a byte string,
returning the bytes behind it. Codecs of records are put together from those of their
fields, in order.
-/

namespace StakingIndexer

/-- A way to write values as bytes and to read them off the front of bytes. -/
structure Codec (α : Type) where
  encode : α → Bytes
  decode : Bytes → Option (α × Bytes)

namespace Codec

variable {α β : Type}

/-- A codec of values that correspond to others. -/
def map (c : Codec α) (forward : α → β) (back : β → α) : Codec β where
  encode b := c.encode (back b)
  decode bs := (c.decode bs).map fun r => (forward r.1, r.2)

/-- One value behind another. -/
def pair (c : Codec α) (d : Codec β) : Codec (α × β) where
  encode v := c.encode v.1 ++ d.encode v.2
  decode bs := do
    let (a, bs) ← c.decode bs
    let (b, bs) ← d.decode bs
    return ((a, b), bs)

/-- A byte string of known length. -/
def block (length : Nat) : Codec Bytes where
  encode bs := bs
  decode bs := if length ≤ bs.length then some (bs.take length, bs.drop length) else none

/-- Numbers of `width` bytes, least significant first. -/
def fixed (width : Nat) : Codec Nat where
  encode n := Bytes.ofNatLE width n
  decode bs := ((block width).decode bs).map fun r => (Bytes.toNatLE r.1, r.2)

def u32 : Codec UInt32 := (fixed 4).map UInt32.ofNat UInt32.toNat

def u64 : Codec UInt64 := (fixed 8).map UInt64.ofNat UInt64.toNat

/-- One byte, zero or one. -/
def bool : Codec Bool where
  encode b := [if b then 1 else 0]
  decode
    | b :: bs => if b = 0 then some (false, bs) else if b = 1 then some (true, bs) else none
    | [] => none

/-- A zero byte for no value, or a byte one before the value. -/
def option (c : Codec α) : Codec (Option α) where
  encode
    | none => [0]
    | some a => 1 :: c.encode a
  decode bs := do
    let (isSome, bs) ← bool.decode bs
    if isSome then
      let (a, bs) ← c.decode bs
      return (some a, bs)
    else return (none, bs)

/-- The least number of bytes that spell a number. -/
def byteCount (n : Nat) : Nat := if _h : n = 0 then 0 else byteCount (n / 256) + 1
termination_by n
decreasing_by omega

/-- Numbers of up to `width` bytes in the fewest bytes. The two lowest bits of the first byte
say how the number goes on: within the byte, in two bytes, in four, or in as many further
bytes as the rest of the first byte says, four not counted. -/
def compact (width : Nat) : Codec Nat where
  encode n :=
    if n < 64 then Bytes.ofNatLE 1 (4 * n)
    else if n < 1 <<< 14 then Bytes.ofNatLE 2 (4 * n + 1)
    else if n < 1 <<< 30 then Bytes.ofNatLE 4 (4 * n + 2)
    else
      let count := byteCount n
      UInt8.ofNat (4 * (count - 4) + 3) :: Bytes.ofNatLE count n
  decode bs := do
    let (first, rest) ← (fixed 1).decode bs
    match first % 4 with
    | 0 => return (first / 4, rest)
    | 1 =>
      let (n, rest) ← (fixed 2).decode bs
      if 64 ≤ n / 4 then return (n / 4, rest) else none
    | 2 =>
      let (n, rest) ← (fixed 4).decode bs
      if 1 <<< 14 ≤ n / 4 then return (n / 4, rest) else none
    | _ =>
      let count := first / 4 + 4
      let (n, rest) ← (fixed count).decode rest
      if count ≤ width ∧ 1 <<< 30 ≤ n ∧ 1 <<< (8 * (count - 1)) ≤ n then return (n, rest) else none

/-- A number of values, one behind the other. -/
def times (c : Codec α) : Nat → Bytes → Option (List α × Bytes)
  | 0, bs => some ([], bs)
  | n + 1, bs => do
    let (a, bs) ← c.decode bs
    let (as, bs) ← times c n bs
    return (a :: as, bs)

/-- The number of values, which has at most 32 bits, and the values. -/
def list (c : Codec α) : Codec (List α) where
  encode as := (compact 4).encode as.length ++ as.flatMap c.encode
  decode bs := do
    let (n, bs) ← (compact 4).decode bs
    c.times n bs

end Codec
end StakingIndexer
