import StakingIndexer.Hash.Blake2b
import StakingIndexer.Relay.Account
import StakingIndexer.Text.Base58
import StakingIndexer.Text.Quoted

/-!
# SS58 addresses

The base58 text of a network format, a public key and a checksum of two bytes. Formats
below 64 take one byte, others two; formats have 14 bits.
-/

namespace StakingIndexer
namespace Ss58

/-- Why a text is no address. -/
inductive DecodeError where
  | base58 (cause : Base58.DecodeError)
  | length (bytes : Nat)
  | format
  | checksum
deriving DecidableEq

namespace DecodeError

def message : DecodeError → String
  | base58 (.invalidCharacter c position) =>
    "invalid base58: provided string contained invalid character " ++ Text.quoteChar c
      ++ " at byte " ++ toString position
  | base58 (.nonAscii position) =>
    "invalid base58: provided string contained non-ascii character starting at byte "
      ++ toString position
  | length bytes => "invalid address length " ++ toString bytes
  | format => "invalid address format prefix"
  | checksum => "invalid checksum"

end DecodeError

/-- The two bytes of a checksum over format and key. -/
def checksum (payload : Bytes) : Bytes :=
  (Hash.blake2b 64 ("SS58PRE".toUTF8.toList ++ payload)).take 2

/-- The lowest 14 bits of a number, which name a format. -/
def formatOf (n : UInt16) : Nat := n.toNat % (1 <<< 14)

/-- The bytes of a format in two bytes. Its eight lower bits are split between them. -/
def twoBytes (format : Nat) : Bytes :=
  [UInt8.ofNat (64 + format % 256 / 4), UInt8.ofNat (format / 256 + format % 4 * 64)]

/-- The fewest bytes of a format. -/
def formatBytes (format : Nat) : Bytes :=
  if format < 64 then [UInt8.ofNat format] else twoBytes format

/-- The format that two bytes spell, the first of which lies between 64 and 127. -/
def ofTwoBytes (first second : UInt8) : Nat :=
  (first.toNat - 64) * 4 + second.toNat / 64 + second.toNat % 64 * 256

/-- The address of a key in a network format. -/
def encode (key : AccountId) (format : UInt16) : String :=
  let payload := formatBytes (formatOf format) ++ key.bytes
  Base58.encode (payload ++ checksum payload)

/-- The format at the front of an address, and the number of its bytes. -/
def readFormat : Bytes → Except DecodeError (Nat × Nat)
  | [] => .error (.length 0)
  | first :: rest =>
    if first < 64 then .ok (first.toNat, 1)
    else if first < 128 then
      match rest with
      | [] => .error (.length 1)
      | second :: _ => .ok (ofTwoBytes first second, 2)
    else .error .format

/-- The key and the format of an address. -/
def decode (s : String) : Except DecodeError (AccountId × UInt16) := do
  let bs ← (Base58.decode s).mapError .base58
  let (format, width) ← readFormat bs
  let payload := bs.take (width + 32)
  if bs.length ≠ width + 34 then throw (.length bs.length)
  if bs.drop (width + 32) ≠ checksum payload then throw .checksum
  match AccountId.ofBytes? (payload.drop width) with
  | some key => return (key, UInt16.ofNat format)
  | none => throw (.length bs.length)

end Ss58
end StakingIndexer
