import HostFleet.Utility.Options
import HostFleet.Utility.Stream

/-!
# Counts

`wc` counts the lines, words, characters and bytes of files, and how wide their lines are.
-/

namespace HostFleet.Utility

open Machine

def isSpace (c : Char) : Bool := c = ' ' || (9 ≤ c.toNat && c.toNat ≤ 13)

structure Tally where
  lines : Nat := 0
  words : Nat := 0
  bytes : Nat := 0
  /-- The width of the widest line. -/
  widest : Nat := 0

namespace Tally

/-- A tally in the making: whether the last character belongs to a word, and how wide the line is
so far. -/
structure Partial where
  tally : Tally := {}
  inWord : Bool := false
  width : Nat := 0

def step (p : Partial) (c : Char) : Partial :=
  let t := p.tally
  let blank := isSpace c
  let width :=
    if c = '\n' || c = '\r' || c = '\x0c' then 0
    else if c = '\t' then p.width + 8 - p.width % 8
    else if 32 ≤ c.toNat && c.toNat ≤ 126 then p.width + 1 else p.width
  { tally :=
      { lines := if c = '\n' then t.lines + 1 else t.lines
        words := if !blank && !p.inWord then t.words + 1 else t.words
        bytes := t.bytes + 1
        widest := max t.widest width }
    inWord := !blank
    width := width }

def ofText (text : String) : Tally := (text.toList.foldl step {}).tally

def add (a b : Tally) : Tally :=
  ⟨a.lines + b.lines, a.words + b.words, a.bytes + b.bytes, max a.widest b.widest⟩

/-- The counts that are asked for, in their order. -/
def counts (t : Tally) (p : Parsed) : List Nat :=
  let asked := ["l", "w", "m", "c", "L"].any p.has
  let wants (key : String) : Bool := p.has key || (!asked && ["l", "w", "c"].contains key)
  (if wants "l" then [t.lines] else []) ++ (if wants "w" then [t.words] else [])
    ++ (if wants "m" then [t.bytes] else []) ++ (if wants "c" then [t.bytes] else [])
    ++ (if wants "L" then [t.widest] else [])

def line (t : Tally) (p : Parsed) (width : Nat) (name : String) : String :=
  let numbers := " ".intercalate ((t.counts p).map fun n => padLeft width (toString n))
  numbers ++ (if name.isEmpty then "" else " " ++ name) ++ "\n"

end Tally

/-- The size of what a name leads to, if it is an ordinary file. Nothing stands for a name that
leads nowhere. -/
def sizeOf? (files : Files) (folder : String) (input : Option Nat) (name : String) :
    Option (Option Nat) :=
  if name = "-" then some input
  else match files.lookup true folder name with
    | .ok (_, .file content) => some (some content.length)
    | .ok _ => some none
    | .error _ => none

def wcOptions : Options where
  short := "clLmw"
  long := [("bytes", .none, "c"), ("chars", .none, "m"), ("lines", .none, "l"),
    ("words", .none, "w"), ("max-line-length", .none, "L"), ("total", .required, "total"),
    ("files0-from", .required, "files0")]

def wc : Utility := fun c => do
  let p ← wcOptions.of c 1
  let total := (p.value? "total").getD "auto"
  let names := if p.operands.isEmpty then ["-"] else p.operands
  let files ← Program.files
  let folder ← Program.folder
  let input ← Program.look fun pid k => match k.stream? pid 0 with
    | some (.file place _ _ _) => some (k.fileText place).length
    | _ => none
  let sizes := names.filterMap (sizeOf? files folder input)
  let regular := sizes.filterMap id
  let width :=
    if total = "only" || (names.length = 1 && (({} : Tally).counts p).length = 1) then 1
    else if sizes.isEmpty then 1
    else max (if sizes.contains none then 7 else 1) (toString (regular.foldl (· + ·) 0)).length
  let show' (t : Tally) (name : String) : Program Unit :=
    if total = "only" then pure () else c.put (t.line p width name)
  let mut sum : Tally := {}
  let mut fine := true
  for name in names do
    let shown := if p.operands.isEmpty then "" else name
    let opened ← if name = "-" then pure (.ok 0) else Program.openPath name { read := true }
    match opened with
    | .error e => do
      c.warn (nameText name ++ ": " ++ e.reason)
      fine := false
    | .ok fd => do
      match ← Program.readAll fd Program.plenty [] with
      | .error e => do
        c.warn (nameText name ++ ": " ++ e.reason)
        fine := false
        show' {} shown
      | .ok text => do
        let t := Tally.ofText text
        sum := sum.add t
        show' t shown
      if fd != 0 then Program.close fd
  if total = "only" then c.put (sum.line p 1 "")
  else if total = "always" || (1 < names.length && total != "never") then
    c.put (sum.line p width "total")
  pure (if fine then 0 else 1)

end HostFleet.Utility
