import HostFleet.Digest.Blocks

/-!
# Secure hashes

The digests with words of 32 or 64 bits whose constants are digits of roots of prime numbers, and
the older one of 160 bits.
-/

namespace HostFleet.Digest

/-- The eight words that a digest carries from block to block. -/
structure Octet (w : Nat) where
  a : BitVec w
  b : BitVec w
  c : BitVec w
  d : BitVec w
  e : BitVec w
  f : BitVec w
  g : BitVec w
  h : BitVec w

namespace Octet

variable {w : Nat}

def ofList (xs : List Nat) : Octet w :=
  let x (i : Nat) : BitVec w := BitVec.ofNat w (xs.getD i 0)
  ⟨x 0, x 1, x 2, x 3, x 4, x 5, x 6, x 7⟩

def toList (s : Octet w) : List (BitVec w) := [s.a, s.b, s.c, s.d, s.e, s.f, s.g, s.h]

def add (s t : Octet w) : Octet w :=
  ⟨s.a + t.a, s.b + t.b, s.c + t.c, s.d + t.d, s.e + t.e, s.f + t.f, s.g + t.g, s.h + t.h⟩

end Octet

/-- How words of a width are mixed: three rotations for each of the two great sums, and two
rotations and a shift for each of the two small ones. -/
structure Mixing (w : Nat) where
  great₀ : Nat × Nat × Nat
  great₁ : Nat × Nat × Nat
  small₀ : Nat × Nat × Nat
  small₁ : Nat × Nat × Nat
  rounds : List (BitVec w)

namespace Mixing

variable {w : Nat}

def great (r : Nat × Nat × Nat) (x : BitVec w) : BitVec w :=
  x.rotateRight r.1 ^^^ x.rotateRight r.2.1 ^^^ x.rotateRight r.2.2

def small (r : Nat × Nat × Nat) (x : BitVec w) : BitVec w :=
  x.rotateRight r.1 ^^^ x.rotateRight r.2.1 ^^^ (x >>> r.2.2)

/-- The words of a block and those that are made from them, one for each round. -/
def schedule (m : Mixing w) (block : List (BitVec w)) : Array (BitVec w) :=
  (List.range (m.rounds.length - 16)).foldl (fun ws i =>
    let at' (j : Nat) : BitVec w := ws.getD (i + j) 0
    ws.push (small m.small₁ (at' 14) + at' 9 + small m.small₀ (at' 1) + at' 0)) block.toArray

def round (m : Mixing w) (s : Octet w) (k x : BitVec w) : Octet w :=
  let choice := (s.e &&& s.f) ^^^ (~~~s.e &&& s.g)
  let majority := (s.a &&& s.b) ^^^ (s.a &&& s.c) ^^^ (s.b &&& s.c)
  let t := s.h + great m.great₁ s.e + choice + k + x
  ⟨t + great m.great₀ s.a + majority, s.a, s.b, s.c, s.d + t, s.e, s.f, s.g⟩

/-- Works a block into the words. -/
def absorb (m : Mixing w) (s : Octet w) (block : Bytes) : Octet w :=
  let ws := m.schedule (words .big w block)
  let t := (m.rounds.zip ws.toList).foldl (fun t (k, x) => m.round t k x) s
  s.add t

/-- The digest of a message, from the words that it begins with. -/
def digest (m : Mixing w) (initial : List Nat) (size : Nat) (message : Bytes) : Bytes :=
  let blocks := pieces (2 * w) (padded .big (2 * w) (w / 4) message)
  (ofWords .big (blocks.foldl m.absorb (Octet.ofList initial)).toList).take size

end Mixing

/-- The digits of cube roots that the rounds use. -/
def roundDigits (w count : Nat) : List (BitVec w) :=
  (primes count).map fun p => BitVec.ofNat w (rootDigits 3 w p)

def mixing32 : Mixing 32 where
  great₀ := (2, 13, 22)
  great₁ := (6, 11, 25)
  small₀ := (7, 18, 3)
  small₁ := (17, 19, 10)
  rounds := roundDigits 32 64

def mixing64 : Mixing 64 where
  great₀ := (28, 34, 39)
  great₁ := (14, 18, 41)
  small₀ := (1, 8, 7)
  small₁ := (19, 61, 6)
  rounds := roundDigits 64 80

/-- Digits of the square roots of the first eight prime numbers, or of the next eight. -/
def startDigits (digits : Nat) (areLater : Bool) : List Nat :=
  let ps := primes 16
  (if areLater then ps.drop 8 else ps.take 8).map (rootDigits 2 digits)

def sha224 : Bytes → Bytes :=
  mixing32.digest ((startDigits 64 true).map fun n => n % Nat.pow 2 32) 28

def sha256 : Bytes → Bytes := mixing32.digest (startDigits 32 false) 32

def sha384 : Bytes → Bytes := mixing64.digest (startDigits 64 true) 48

def sha512 : Bytes → Bytes := mixing64.digest (startDigits 64 false) 64

/-! ## The older digest -/

/-- Five words that are carried from block to block. -/
structure Quintet where
  a : BitVec 32
  b : BitVec 32
  c : BitVec 32
  d : BitVec 32
  e : BitVec 32

namespace Quintet

def start : Quintet := ⟨0x67452301, 0xefcdab89, 0x98badcfe, 0x10325476, 0xc3d2e1f0⟩

/-- The round of a number, with the word that is made for it. -/
def round (s : Quintet) (i : Nat) (x : BitVec 32) : Quintet :=
  let (f, k) : BitVec 32 × BitVec 32 :=
    if i < 20 then ((s.b &&& s.c) ||| (~~~s.b &&& s.d), 0x5a827999)
    else if i < 40 then (s.b ^^^ s.c ^^^ s.d, 0x6ed9eba1)
    else if i < 60 then ((s.b &&& s.c) ||| (s.b &&& s.d) ||| (s.c &&& s.d), 0x8f1bbcdc)
    else (s.b ^^^ s.c ^^^ s.d, 0xca62c1d6)
  ⟨s.a.rotateLeft 5 + f + s.e + k + x, s.a, s.b.rotateLeft 30, s.c, s.d⟩

def schedule (block : List (BitVec 32)) : Array (BitVec 32) :=
  (List.range 64).foldl (fun ws i =>
    let at' (j : Nat) : BitVec 32 := ws.getD (i + j) 0
    ws.push ((at' 13 ^^^ at' 8 ^^^ at' 2 ^^^ at' 0).rotateLeft 1)) block.toArray

def absorb (s : Quintet) (block : Bytes) : Quintet :=
  let ws := schedule (words .big 32 block)
  let t := ws.toList.zipIdx.foldl (fun t (x, i) => t.round i x) s
  ⟨s.a + t.a, s.b + t.b, s.c + t.c, s.d + t.d, s.e + t.e⟩

end Quintet

def sha1 (message : Bytes) : Bytes :=
  let s := (pieces 64 (padded .big 64 8 message)).foldl Quintet.absorb Quintet.start
  ofWords .big [s.a, s.b, s.c, s.d, s.e]

end HostFleet.Digest
