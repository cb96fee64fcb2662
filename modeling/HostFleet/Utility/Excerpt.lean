import HostFleet.Utility.Options
import HostFleet.Utility.Stream

/-!
# The ends of files

`head` and `tail`: so many lines or bytes from the front or the back of files.
-/

namespace HostFleet.Utility

open Machine

/-- What the letters behind a number multiply it by. -/
def multiplier? : List Char → Option Nat
  | [] => some 1
  | ['b'] => some 512
  | ['k', 'B'] => some 1000
  | c :: rest =>
    let power := ["kK", "M", "G", "T", "P", "E", "Z", "Y"].findIdx? fun cs => cs.contains c
    match power, rest with
    | some n, [] => some (Nat.pow 1024 (n + 1))
    | some n, ['i', 'B'] => some (Nat.pow 1024 (n + 1))
    | some n, ['B'] => some (Nat.pow 1000 (n + 1))
    | _, _ => none

/-- A size with an optional suffix, as a whole number. -/
def size? (s : String) : Option Nat := do
  let cs := s.toList.dropWhile fun c => c = ' ' || c = '\t'
  let cs := if cs.head? = some '+' then cs.tail else cs
  let ds := cs.takeWhile Char.isDigit
  let factor ← multiplier? (cs.drop ds.length)
  if ds.isEmpty then none
  else some (ds.foldl (fun n c => n * 10 + (c.toNat - 48)) 0 * factor)

/-- How much of a file is wanted. -/
structure Extent where
  byLine : Bool := true
  count : Nat := 10
  /-- Whether the count is about what is left out. -/
  isRest : Bool := false

namespace Extent

def unit (e : Extent) : String := if e.byLine then "lines" else "bytes"

/-- Reads how many there are to be. -/
def withCount (c : Call) (e : Extent) (text : String) : Program Extent :=
  match size? text with
  | some n =>
    if n < Nat.pow 2 64 then pure { e with count := n }
    else c.fail ("invalid number of " ++ e.unit ++ ": " ++ inQuotes text
      ++ ": Value too large for defined data type") 1
  | none => c.fail ("invalid number of " ++ e.unit ++ ": " ++ inQuotes text) 1

end Extent

/-- The text of so many lines, each with what ends it. -/
def joinLines (stop : Char) (lines : List Line) : String :=
  String.join (lines.map (Line.whole stop))

/-- The title of a file among several. -/
def title (isFirst : Bool) (name : String) : String :=
  (if isFirst then "" else "\n") ++ "==> " ++ (if name = "-" then "standard input" else name)
    ++ " <==\n"

/-- Copies the front of what a descriptor gives, and reads no further than it must. What was read
too far is left for others if that can be done. -/
def copyFront (c : Call) (stop : Char) (e : Extent) (fd : Nat) : Program (Except OsError Nat) :=
  if e.isRest then do
    match ← Program.readAll fd Program.plenty [] with
    | .error err => pure (.error err)
    | .ok text =>
      if e.byLine then
        let lines := Line.ofText stop text
        c.put (joinLines stop (lines.take (lines.length - e.count)))
      else c.put (String.ofList (text.toList.take (text.length - e.count)))
      pure (.ok 0)
  else if e.count = 0 then pure (.ok 0)
  else do
    let rest ← eachPiece fd Program.plenty (fun left text => do
      let cs := text.toList
      let rec front (n : Nat) (done : List Char) : List Char → Nat × List Char × List Char
        | [] => (n, done.reverse, [])
        | c :: cs =>
          if n = 0 then (0, done.reverse, c :: cs)
          else front (if !e.byLine || c = stop then n - 1 else n) (c :: done) cs
      let (left, taken, spare) := front left [] cs
      c.put (String.ofList taken)
      if left = 0 then
        Program.change fun pid k => k.giveBack pid fd spare.length
      pure (left, 0 < left)) e.count
    pure rest

/-- Copies the back of what a descriptor gives. -/
def copyBack (c : Call) (stop : Char) (e : Extent) (fd : Nat) : Program (Except OsError Nat) := do
  match ← Program.readAll fd Program.plenty [] with
  | .error err => pure (.error err)
  | .ok text =>
    if e.byLine then
      let lines := Line.ofText stop text
      let left := if e.isRest then e.count - 1 else lines.length - e.count
      c.put (joinLines stop (lines.drop left))
    else
      let left := if e.isRest then e.count - 1 else text.length - e.count
      c.put (String.ofList (text.toList.drop left))
    pure (.ok 0)

/-- Does something with each file under its title. -/
def eachTitled (c : Call) (titles : Bool) (names : List String)
    (copy : Nat → Program (Except OsError Nat)) : Program Nat := do
  let mut fine := true
  let mut isFirst := true
  for name in if names.isEmpty then ["-"] else names do
    let opened ← if name = "-" then pure (.ok 0) else Program.openPath name { read := true }
    match opened with
    | .error e => do
      c.warn ("cannot open " ++ inQuotes name ++ " for reading: " ++ e.reason)
      fine := false
    | .ok fd => do
      if titles then
        c.put (title isFirst name)
        isFirst := false
      match ← copy fd with
      | .ok _ => pure ()
      | .error e => do
        c.warn ("error reading " ++ inQuotes (if name = "-" then "standard input" else name)
          ++ ": " ++ e.reason)
        fine := false
      if fd != 0 then Program.close fd
  pure (if fine then 0 else 1)

/-- A count without a letter for what it counts, as in `-5`. The letters behind it say more. -/
def oldCount? (cs : List Char) : Option (String × List Char) :=
  let ds := cs.takeWhile Char.isDigit
  if ds.isEmpty then none else some (String.ofList ds, cs.drop ds.length)

def headOptions : Options where
  short := "c:n:qvz"
  long := [("bytes", .required, "c"), ("lines", .required, "n"), ("quiet", .none, "q"),
    ("silent", .none, "q"), ("verbose", .none, "v"), ("zero-terminated", .none, "z")]

/-- Spells an old count with letters. -/
def modernArgs (args : List String) : List String :=
  match args with
  | first :: rest =>
    match first.toList with
    | '-' :: cs =>
      match oldCount? cs with
      | none => args
      | some (n, letters) =>
        let key := if letters.contains 'c' || letters.contains 'b' || letters.contains 'k'
            || letters.contains 'm' then "-c" else "-n"
        let unit := if letters.contains 'b' then "b" else if letters.contains 'k' then "k"
          else if letters.contains 'm' then "M" else ""
        let flags := letters.filter fun c => c = 'q' || c = 'v' || c = 'z'
        (key ++ n ++ unit) :: (flags.map fun c => String.ofList ['-', c]) ++ rest
    | _ => args
  | [] => []

/-- Whether files have titles: the last option about it decides. -/
def hasTitles (p : Parsed) : Bool :=
  match p.last? ["q", "v"] with
  | some "v" => true
  | some _ => false
  | none => 1 < p.operands.length

def head : Utility := fun c => do
  let p ← headOptions.of { c with args := modernArgs c.args } 1
  let e ← p.options.foldlM (fun (e : Extent) (key, value) =>
    if key = "c" || key = "n" then
      let e : Extent := { e with byLine := key = "n" }
      match value.toList with
      | '-' :: cs => ({ e with isRest := true } : Extent).withCount c (String.ofList cs)
      | _ => ({ e with isRest := false } : Extent).withCount c value
    else pure e) {}
  eachTitled c (hasTitles p) p.operands (copyFront c (if p.has "z" then '\x00' else '\n') e)

def tailOptions : Options where
  short := "c:n:fFqs:vz"
  long := [("bytes", .required, "c"), ("lines", .required, "n"), ("follow", .optional, "f"),
    ("quiet", .none, "q"), ("silent", .none, "q"), ("verbose", .none, "v"),
    ("zero-terminated", .none, "z"), ("pid", .required, "pid"), ("retry", .none, "retry"),
    ("sleep-interval", .required, "s")]

def tail : Utility := fun c => do
  let args := match c.args with
    | first :: rest =>
      match first.toList with
      | '+' :: cs =>
        match oldCount? cs with
        | some (n, letters) =>
          if rest.length ≤ 1 then
            ((if letters.contains 'c' then "-c+" else "-n+") ++ n) :: rest
          else c.args
        | none => c.args
      | _ => modernArgs c.args
    | [] => []
  let p ← tailOptions.of { c with args := args } 1
  let e ← p.options.foldlM (fun (e : Extent) (key, value) =>
    if key = "c" || key = "n" then
      let e : Extent := { e with byLine := key = "n" }
      match value.toList with
      | '+' :: cs => ({ e with isRest := true } : Extent).withCount c (String.ofList cs)
      | '-' :: cs => ({ e with isRest := false } : Extent).withCount c (String.ofList cs)
      | _ => ({ e with isRest := false } : Extent).withCount c value
    else pure e) {}
  eachTitled c (hasTitles p) p.operands (copyBack c (if p.has "z" then '\x00' else '\n') e)

end HostFleet.Utility
