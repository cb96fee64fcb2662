/-!
# Versions

The order of names with numbers in them: a run of digits counts as a number, and what looks like
the ending of a file counts last.
-/

namespace HostFleet.Version

/-- The rank of a character between numbers: a tilde comes before the end, letters before other
signs. -/
def rank : Option Char → Int
  | none => -1
  | some '~' => -2
  | some c => if c.isDigit then 0 else if c.isAlpha then c.toNat else c.toNat + 256

def compareRanks : List Char → List Char → Ordering
  | [], [] => .eq
  | [], b :: _ => compare (rank none) (rank b)
  | a :: _, [] => compare (rank a) (rank none)
  | a :: as, b :: bs => (compare (rank a) (rank b)).then (compareRanks as bs)

def value (ds : List Char) : Nat := ds.foldl (fun n c => n * 10 + (c.toNat - 48)) 0

/-- Compares texts part by part: what is no digit, then a number, and so on. -/
def compareParts (fuel : Nat) (a b : List Char) : Ordering :=
  match fuel with
  | 0 => .eq
  | fuel + 1 =>
    if a.isEmpty && b.isEmpty then .eq
    else
      let wordA := a.takeWhile fun c => !c.isDigit
      let wordB := b.takeWhile fun c => !c.isDigit
      let restA := a.drop wordA.length
      let restB := b.drop wordB.length
      let endA := if restA.isEmpty then wordA else wordA ++ ['0']
      let endB := if restB.isEmpty then wordB else wordB ++ ['0']
      (compareRanks endA endB).then
        (let digitsA := restA.takeWhile Char.isDigit
        let digitsB := restB.takeWhile Char.isDigit
        (compare (value digitsA) (value digitsB)).then
          (compareParts fuel (restA.drop digitsA.length) (restB.drop digitsB.length)))

/-- The length of the name without its endings. -/
def stemLength (cs : List Char) : Nat :=
  let isSuffix (s : List Char) : Bool :=
    let pieces := (String.ofList s).splitOn "."
    pieces.head? = some "" && pieces.length > 1 && pieces.tail.all fun p =>
      match p.toList with
      | c :: cs => (c.isAlpha || c = '~') && cs.all fun c => c.isAlphanum || c = '~'
      | [] => false
  ((List.range cs.length).find? fun n => 0 < n && isSuffix (cs.drop n)).getD cs.length

def compareNames (a b : String) : Ordering :=
  let x := a.toList
  let y := b.toList
  if a == b then .eq
  else if x.isEmpty then .lt
  else if y.isEmpty then .gt
  else
    let special (s : String) : Nat :=
      if s = "." then 0 else if s = ".." then 1 else if s.startsWith "." then 2 else 3
    (compare (special a) (special b)).then <|
      let stemA := x.take (stemLength x)
      let stemB := y.take (stemLength y)
      let size := x.length + y.length + 1
      (compareParts size stemA stemB).then ((compareParts size x y).then (compare a b))

end HostFleet.Version
