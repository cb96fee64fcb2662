import HostFleet.Digest.Blocks

/-!
# Message digests of 128 bits
-/

namespace HostFleet.Digest

namespace Md5

abbrev Word := BitVec 32

/-- The digits of sines that the steps use. -/
def sines : List Word :=
  (List.range 64).map fun i =>
    BitVec.ofNat 32 ((Float.sin (i + 1).toFloat).abs * 4294967296.0).toUInt64.toNat

/-- By how much the steps of each round rotate. -/
def rotations : List (List Nat) :=
  [[7, 12, 17, 22], [5, 9, 14, 20], [4, 11, 16, 23], [6, 10, 15, 21]]

structure Quartet where
  a : Word
  b : Word
  c : Word
  d : Word

def start : Quartet := ⟨0x67452301, 0xefcdab89, 0x98badcfe, 0x10325476⟩

/-- The step of a number. -/
def step (block : Array Word) (s : Quartet) (i : Nat) (sine : Word) : Quartet :=
  let (f, place) : Word × Nat := match i / 16 with
    | 0 => ((s.b &&& s.c) ||| (~~~s.b &&& s.d), i)
    | 1 => ((s.d &&& s.b) ||| (~~~s.d &&& s.c), (5 * i + 1) % 16)
    | 2 => (s.b ^^^ s.c ^^^ s.d, (3 * i + 5) % 16)
    | _ => (s.c ^^^ (s.b ||| ~~~s.d), 7 * i % 16)
  let turn := ((rotations.getD (i / 16) []).getD (i % 4) 0)
  ⟨s.d, s.b + (s.a + f + sine + block.getD place 0).rotateLeft turn, s.b, s.c⟩

def absorb (s : Quartet) (block : Bytes) : Quartet :=
  let ws := (words .little 32 block).toArray
  let t := sines.zipIdx.foldl (fun t (sine, i) => step ws t i sine) s
  ⟨s.a + t.a, s.b + t.b, s.c + t.c, s.d + t.d⟩

end Md5

def md5 (message : Bytes) : Bytes :=
  let s := (pieces 64 (padded .little 64 8 message)).foldl Md5.absorb Md5.start
  ofWords .little [s.a, s.b, s.c, s.d]

end HostFleet.Digest
