/-!
# Numbers by chance

A generator that adds what it gave 31 and three turns before. The same seed gives the same numbers.
-/

namespace HostFleet

/-- The last 31 words, oldest first. -/
structure Generator where
  words : Array UInt32
  deriving Inhabited

namespace Generator

def step (g : Generator) : UInt32 × Generator :=
  let w := g.words.getD 0 0 + g.words.getD 28 0
  (w, ⟨(g.words.extract 1 31).push w⟩)

/-- Gives so many numbers up. -/
def skip (g : Generator) : Nat → Generator
  | 0 => g
  | n + 1 => skip g.step.2 n

/-- The words that a seed begins with: each is a multiple of the one before it. -/
def start (count : Nat) (w : Nat) : List UInt32 :=
  match count with
  | 0 => []
  | count + 1 => w.toUInt32 :: start count (16807 * w % 2147483647)

def ofSeed (seed : UInt32) : Generator :=
  let seed := if seed = 0 then 1 else seed.toNat
  let signed : Int := if seed < Nat.pow 2 31 then seed else (seed : Int) - Int.pow 2 32
  let second : Int := (16807 * signed).fmod 2147483647
  let words := (seed.toUInt32 :: start 30 second.toNat).toArray
  ({ words := words.extract 3 31 ++ words.extract 0 3 } : Generator).skip 310

/-- A number below `2 ^ 31`. -/
def next (g : Generator) : Nat × Generator :=
  let (w, g) := g.step
  ((w >>> 1).toNat, g)

end Generator

end HostFleet
