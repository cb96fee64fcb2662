import HostFleet.Text.ByteText

/-!
# Messages in blocks

Digests work through a message block by block, each a list of words, once its length stands behind
it. Some of their constants are the first digits of roots.
-/

namespace HostFleet.Digest

/-- In which order the bytes of a word stand. -/
inductive Endian where
  | big
  | little
  deriving DecidableEq, Repr

/-- The number that bytes spell. -/
def Endian.number (e : Endian) (bs : Bytes) : Nat :=
  let bs := if e = .big then bs else bs.reverse
  bs.foldl (fun n b => n * 256 + b.toNat) 0

/-- The bytes that spell a number, so many of them. -/
def Endian.bytes (e : Endian) (count n : Nat) : Bytes :=
  let bs := (List.range count).map fun i => UInt8.ofNat (n / Nat.pow 256 i)
  if e = .big then bs.reverse else bs

/-- A message with a one bit, zeros and its length in bits behind it, which fill its blocks. -/
def padded (e : Endian) (blockSize lengthSize : Nat) (message : Bytes) : Bytes :=
  let used := (message.length + 1 + lengthSize) % blockSize
  let zeros := if used = 0 then 0 else blockSize - used
  message ++ 0x80 :: List.replicate zeros 0 ++ e.bytes lengthSize (8 * message.length)

/-- The pieces of a list, so many elements each. -/
def pieces {α : Type} (size : Nat) (xs : List α) : List (List α) :=
  (List.range ((xs.length + size - 1) / size)).foldl
    (fun (done, rest) _ => (rest.take size :: done, rest.drop size)) ([], xs) |>.1.reverse

/-- The words of a block. -/
def words (e : Endian) (w : Nat) (block : Bytes) : List (BitVec w) :=
  (pieces (w / 8) block).map fun piece => BitVec.ofNat w (e.number piece)

/-- The bytes of words. -/
def ofWords (e : Endian) {w : Nat} (ws : List (BitVec w)) : Bytes :=
  ws.flatMap fun x => e.bytes (w / 8) x.toNat

/-- The bytes in hexadecimal digits. -/
def hex (bs : Bytes) : String :=
  let digit (n : Nat) : Char := "0123456789abcdef".toList.getD n '0'
  String.ofList (bs.flatMap fun b => [digit (b.toNat / 16), digit (b.toNat % 16)])

/-! ## Constants -/

/-- The greatest number whose power is not above `n`. -/
def root (power n : Nat) : Nat :=
  (List.range (Nat.log2 n / power + 1)).foldr
    (fun i r => if Nat.pow (r + Nat.pow 2 i) power ≤ n then r + Nat.pow 2 i else r) 0

/-- The first prime numbers, so many of them. -/
def primes (count : Nat) : List Nat :=
  ((List.range (8 * count)).filter fun n =>
    2 ≤ n && (List.range n).all fun d => d < 2 || n % d != 0).take count

/-- The first binary digits behind the point of the root of a number. -/
def rootDigits (power digits n : Nat) : Nat :=
  root power (n * Nat.pow 2 (power * digits)) % Nat.pow 2 digits

end HostFleet.Digest
