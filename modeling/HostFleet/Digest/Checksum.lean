import HostFleet.Digest.Blocks

/-!
# Checksums

Short sums over bytes: the remainder of a division of polynomials, a sum that is rotated, and a
plain sum.
-/

namespace HostFleet.Digest

/-- The remainder after eight more binary digits. -/
def crcStep (r : UInt32) : UInt32 :=
  (List.range 8).foldl (fun r _ =>
    if r &&& 0x80000000 != 0 then (r <<< 1) ^^^ 0x04c11db7 else r <<< 1) r

def crcTable : Array UInt32 :=
  ((List.range 256).map fun n => crcStep (UInt32.ofNat n <<< 24)).toArray

def crcByte (r : UInt32) (b : UInt8) : UInt32 :=
  (r <<< 8) ^^^ crcTable.getD ((r >>> 24) ^^^ b.toUInt32).toNat 0

/-- The bytes of a number, the lowest first, without zeros at the end. -/
def lengthBytes (n : Nat) : Bytes :=
  let bs := (List.range 8).map fun i => UInt8.ofNat (n / Nat.pow 256 i)
  (bs.reverse.dropWhile (· = 0)).reverse

/-- The cyclic redundancy check over a message and its length. -/
def crc (message : Bytes) : Nat :=
  let r := message.foldl crcByte 0
  (~~~(lengthBytes message.length).foldl crcByte r).toNat

/-- A sum of 16 bits that is rotated before each byte. -/
def rotatingSum (message : Bytes) : Nat :=
  message.foldl (fun n b => ((n >>> 1) + (n % 2) * 0x8000 + b.toNat) % 0x10000) 0

/-- The sum of all bytes, folded to 16 bits. -/
def plainSum (message : Bytes) : Nat :=
  let s := message.foldl (fun n b => n + b.toNat) 0 % Nat.pow 2 32
  let r := s % 0x10000 + s / 0x10000
  r % 0x10000 + r / 0x10000

end HostFleet.Digest
