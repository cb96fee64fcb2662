import HostFleet.Text.ByteText

/-!
# Bytes in digits

A radix writes bytes as digits of a few bits each, in groups that end where bytes end. Signs of
equality fill the last group.
-/

namespace HostFleet

structure Radix where
  digits : String
  /-- The number of bits in a digit. -/
  bits : Nat
  /-- The number of digits in a group. -/
  group : Nat
  fills : Bool := true
  /-- Whether the lowest bit of a byte comes first. -/
  lowFirst : Bool := false
  /-- Whether digits too few for a group still count as far as they spell bytes. -/
  showsRest : Bool := false

namespace Radix

def letters : String := "ABCDEFGHIJKLMNOPQRSTUVWXYZ"

def base64 : Radix :=
  ⟨letters ++ letters.map Char.toLower ++ "0123456789+/", 6, 4, true, false, true⟩

def base64Url : Radix :=
  { base64 with digits := letters ++ letters.map Char.toLower ++ "0123456789-_" }

def base32 : Radix := { digits := letters ++ "234567", bits := 5, group := 8 }

def base32Hex : Radix := { base32 with digits := "0123456789ABCDEFGHIJKLMNOPQRSTUV" }

def base16 : Radix := { digits := "0123456789ABCDEF", bits := 4, group := 2, fills := false }

def base2 (lowFirst : Bool) : Radix :=
  { digits := "01", bits := 1, group := 8, fills := false, lowFirst := lowFirst }

/-- The bits of a number, so many of them, the highest first. -/
def toBits (count n : Nat) : List Bool := (List.range count).reverse.map n.testBit

def ofBits (bs : List Bool) : Nat := bs.foldl (fun n b => 2 * n + b.toNat) 0

def byteBits (r : Radix) (b : UInt8) : List Bool :=
  let bs := toBits 8 b.toNat
  if r.lowFirst then bs.reverse else bs

/-- The digits of bits. Zeros fill the last digit. -/
def digitsOf (r : Radix) (table : Array Char) (fuel : Nat) (bs : List Bool) : List Char :=
  match fuel, bs with
  | 0, _ => []
  | _, [] => []
  | fuel + 1, bs =>
    let piece := bs.take r.bits
    let n := ofBits (piece ++ List.replicate (r.bits - piece.length) false)
    table.getD n '0' :: digitsOf r table fuel (bs.drop r.bits)

/-- The digits of bytes, with signs of equality where the last group is not full. -/
def encode (r : Radix) (bytes : Bytes) : String :=
  let cs := r.digitsOf r.digits.toList.toArray (8 * bytes.length + 1) (bytes.flatMap r.byteBits)
  let spare := cs.length % r.group
  let fill := if r.fills && spare != 0 then List.replicate (r.group - spare) '=' else []
  String.ofList (cs ++ fill)

/-- The bytes that whole eights of bits spell. -/
def bytesOf (r : Radix) (fuel : Nat) (bs : List Bool) : Bytes :=
  match fuel with
  | 0 => []
  | fuel + 1 =>
    let piece := bs.take 8
    if piece.length < 8 then []
    else UInt8.ofNat (ofBits (if r.lowFirst then piece.reverse else piece))
      :: bytesOf r fuel (bs.drop 8)

def value? (r : Radix) (c : Char) : Option Nat := r.digits.toList.findIdx? (· = c)

/-- The bytes of a group, and whether it is in order. -/
def groupBytes (r : Radix) (cs : List Char) : Bytes × Bool :=
  let values := cs.map r.value?
  let known := (values.takeWhile Option.isSome).filterMap id
  let bytes := r.bytesOf cs.length (known.flatMap (toBits r.bits))
  if cs.length < r.group then (if r.showsRest then bytes else [], false)
  else
    let rest := cs.drop known.length
    let endsWell := known.length * r.bits % 8 < r.bits && 0 < known.length
    (bytes, rest.isEmpty || (r.fills && endsWell && rest.all (· = '=')))

/-- The bytes that digits spell, up to where they go wrong, and whether they are in order. -/
def decode (r : Radix) (fuel : Nat) (done : List Bytes) (cs : List Char) : Bytes × Bool :=
  match fuel with
  | 0 => (done.reverse.flatten, false)
  | fuel + 1 =>
    if cs.isEmpty then (done.reverse.flatten, true)
    else
      let (bytes, isFine) := r.groupBytes (cs.take r.group)
      if isFine then decode r fuel (bytes :: done) (cs.drop r.group)
      else ((bytes :: done).reverse.flatten, false)

end Radix

end HostFleet
