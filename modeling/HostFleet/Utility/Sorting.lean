import HostFleet.Number.Floating
import HostFleet.Text.Version
import HostFleet.Utility.Options
import HostFleet.Utility.Stream
import HostFleet.Utility.Tally

/-!
# Sorting lines

Lines are compared by keys, parts of them that are found by counting fields and characters, and
by the whole line where all keys are equal.
-/

namespace HostFleet.Utility

open Machine

/-- How the texts of a key are compared. -/
structure Collation where
  skipsStart : Bool := false
  skipsEnd : Bool := false
  /-- Whether only letters, digits and blanks count. -/
  dictionary : Bool := false
  /-- Whether only characters that can be printed count. -/
  printable : Bool := false
  folds : Bool := false
  numeric : Bool := false
  general : Bool := false
  human : Bool := false
  month : Bool := false
  random : Bool := false
  version : Bool := false
  reverse : Bool := false
  deriving DecidableEq

namespace Collation

/-- Whether nothing but the direction is said. -/
def isUsual (o : Collation) : Bool := { o with reverse := false } == ({} : Collation)

/-- What a letter says about the order. `atStart` and `atEnd` tell which end of a key it is
about. -/
def add? (o : Collation) (atStart atEnd : Bool) (c : Char) : Option Collation :=
  match c with
  | 'b' => some { o with skipsStart := o.skipsStart || atStart, skipsEnd := o.skipsEnd || atEnd }
  | 'd' => some { o with dictionary := true }
  | 'f' => some { o with folds := true }
  | 'g' => some { o with general := true }
  | 'h' => some { o with human := true }
  | 'i' => some { o with printable := true }
  | 'M' => some { o with month := true }
  | 'n' => some { o with numeric := true }
  | 'R' => some { o with random := true }
  | 'r' => some { o with reverse := true }
  | 'V' => some { o with version := true }
  | _ => none

/-- The letters of kinds of order that do not go together. -/
def conflict? (o : Collation) : Option String :=
  let count (b : Bool) : Nat := if b then 1 else 0
  let kinds := count o.numeric + count o.general + count o.human + count o.month
    + count (o.version || o.random || o.dictionary || o.printable)
  if kinds ≤ 1 then none
  else
    let letter (b : Bool) (s : String) : String := if b then s else ""
    some (letter o.dictionary "d" ++ letter o.folds "f" ++ letter o.general "g"
      ++ letter o.human "h" ++ letter (o.printable && !o.dictionary) "i" ++ letter o.month "M"
      ++ letter o.numeric "n" ++ letter o.random "R" ++ letter o.version "V")

/-- A number as a text begins with it: whether it is negative, its whole part, and the digits
behind the point, without zeros at the end. -/
def leading (cs : List Char) : Bool × Nat × List Char × List Char :=
  let cs := cs.dropWhile isSpace
  let (negative, cs) := match cs with
    | '-' :: cs => (true, cs)
    | cs => (false, cs)
  let whole := cs.takeWhile Char.isDigit
  let rest := cs.drop whole.length
  let (places, rest) := match rest with
    | '.' :: rest => (rest.takeWhile Char.isDigit, rest.dropWhile Char.isDigit)
    | rest => ([], rest)
  (negative, Version.value whole, (places.reverse.dropWhile (· = '0')).reverse, rest)

def compareNumbers (a b : List Char) : Ordering :=
  let (negA, wholeA, placesA, _) := leading a
  let (negB, wholeB, placesB, _) := leading b
  let zeroA := wholeA = 0 && placesA.isEmpty
  let zeroB := wholeB = 0 && placesB.isEmpty
  let sign (negative zero : Bool) : Int := if zero then 0 else if negative then -1 else 1
  let sizes := (compare wholeA wholeB).then (compare placesA placesB)
  (compare (sign negA zeroA) (sign negB zeroB)).then (if negA && !zeroA then sizes.swap else sizes)

/-- The power of the unit behind a number. -/
def unitOf (cs : List Char) : Int :=
  let (negative, whole, places, rest) := leading cs
  if whole = 0 && places.isEmpty then 0
  else
    let power := match rest with
      | 'k' :: _ => 1
      | c :: _ => match "KMGTPEZYRQ".toList.findIdx? (· = c) with
        | some n => n + 1
        | none => 0
      | [] => 0
    if negative then -(power : Int) else power

/-- The number a text begins with, with any exponent. Texts without one come first. -/
def generalKey (cs : List Char) : Int × Int × Int :=
  match Floating.read? Floating.extended (cs.dropWhile isSpace) with
  | none => (0, 0, 1)
  | some (x, _) =>
    match x with
    | .finite negative m e =>
      let (n, d) := Floating.ratio m e
      (2, if negative then -(n : Int) else n, d)
    | .infinite negative => if negative then (2, -1, 0) else (2, 1, 0)
    | .notNumber _ => (1, 0, 1)

def compareGeneral (a b : List Char) : Ordering :=
  let (kindA, numA, denA) := generalKey a
  let (kindB, numB, denB) := generalKey b
  (compare kindA kindB).then
    (if denA = 0 && denB = 0 then compare numA numB
    else compare (numA * denB) (numB * denA))

def monthOf (cs : List Char) : Nat :=
  let name := String.ofList (((cs.dropWhile isSpace).take 3).map Char.toUpper)
  match ["JAN", "FEB", "MAR", "APR", "MAY", "JUN", "JUL", "AUG", "SEP", "OCT", "NOV",
      "DEC"].findIdx? (· = name) with
  | some n => n + 1
  | none => 0

/-- Compares the texts of a key. -/
def compareTexts (o : Collation) (a b : List Char) : Ordering :=
  if o.numeric then compareNumbers a b
  else if o.general then compareGeneral a b
  else if o.human then (compare (unitOf a) (unitOf b)).then (compareNumbers a b)
  else if o.month then compare (monthOf a) (monthOf b)
  else if o.version then Version.compareNames (String.ofList a) (String.ofList b)
  else
    let counts (c : Char) : Bool :=
      (!o.dictionary || c.isAlphanum || c = ' ' || c = '\t')
        && (!o.printable || (32 ≤ c.toNat && c.toNat ≤ 126))
    let form (cs : List Char) : List Char :=
      let cs := if o.dictionary || o.printable then cs.filter counts else cs
      if o.folds then cs.map Char.toUpper else cs
    compare (form a) (form b)

end Collation

/-- A part of a line: from a character of a field up to a character of a field. Nothing as its end
stands for the end of the line. -/
structure Key where
  startField : Nat := 0
  startChar : Nat := 0
  stop : Option (Nat × Nat) := none
  ordering : Collation := {}

namespace Key

def isBlank (c : Char) : Bool := c = ' ' || c = '\t' || c = '\n'

/-- What follows so many fields. With `beyond` the sign behind the last one is left out too. -/
def dropFields (tab : Option Char) (beyond : Bool) : Nat → List Char → List Char
  | 0, cs => cs
  | n + 1, cs =>
    match tab with
    | some tab =>
      let rest := cs.dropWhile (· != tab)
      dropFields (some tab) beyond n (if 0 < n || beyond then rest.drop 1 else rest)
    | none => dropFields none beyond n ((cs.dropWhile isBlank).dropWhile fun c => !isBlank c)

/-- The text of the key in a line. -/
def text (k : Key) (tab : Option Char) (line : List Char) : List Char :=
  let start := dropFields tab true (min k.startField line.length) line
  let start := (if k.ordering.skipsStart then start.dropWhile isBlank else start).drop k.startChar
  match k.stop with
  | none => start
  | some (field, char) =>
    let fields := min (if char = 0 then field + 1 else field) (line.length + 1)
    let stop := dropFields tab (char != 0) fields line
    let stop := if char = 0 then stop
      else (if k.ordering.skipsEnd then stop.dropWhile isBlank else stop).drop char
    start.take (start.length - stop.length)

end Key

/-- How lines are sorted. -/
structure Sorting where
  keys : List Key := []
  ordering : Collation := {}
  tab : Option Char := none
  isUnique : Bool := false
  isStable : Bool := false
  stop : Char := '\n'

namespace Sorting

/-- The keys with what holds for those that say nothing themselves. -/
def finalKeys (s : Sorting) : List Key :=
  let keys := s.keys.map fun k =>
    if k.ordering.isUsual && !k.ordering.reverse then { k with ordering := s.ordering } else k
  if keys.isEmpty && !s.ordering.isUsual then [{ ordering := s.ordering }] else keys

/-- Compares lines by the keys alone. -/
def compareKeys (s : Sorting) (keys : List Key) (a b : List Char) : Ordering :=
  keys.foldl (fun found k =>
    found.then (let o := k.ordering.compareTexts (k.text s.tab a) (k.text s.tab b)
      if k.ordering.reverse then o.swap else o)) .eq

/-- Compares lines. -/
def compareLines (s : Sorting) (keys : List Key) (a b : String) : Ordering :=
  (if keys.isEmpty then .eq else s.compareKeys keys a.toList b.toList).then
    (if (s.isUnique || s.isStable) && !keys.isEmpty then .eq
    else if s.ordering.reverse then compare b a else compare a b)

/-- One of each run of lines that are equal. -/
def firsts (same : String → String → Bool) : List String → List String
  | [] => []
  | a :: rest =>
    match firsts same rest with
    | [] => [a]
    | b :: more => if same a b then a :: more else a :: b :: more

/-- Lines from several files, of which the smallest first line is always taken next. -/
def merge (le : String → String → Bool) (files : List (List String)) : List String :=
  files.foldl (fun done lines => List.merge done lines le) []

end Sorting

/-! ## The call -/

namespace Sorting

def options : Options where
  short := "bcCdfghik:mMno:rRsS:t:T:uVy:z"
  long := [("ignore-leading-blanks", .none, "b"), ("check", .optional, "check"),
    ("compress-program", .required, "compress"), ("debug", .none, "debug"),
    ("dictionary-order", .none, "d"), ("ignore-case", .none, "f"),
    ("files0-from", .required, "files0"), ("general-numeric-sort", .none, "g"),
    ("ignore-nonprinting", .none, "i"), ("key", .required, "k"), ("merge", .none, "m"),
    ("month-sort", .none, "M"), ("numeric-sort", .none, "n"),
    ("human-numeric-sort", .none, "h"), ("version-sort", .none, "V"),
    ("random-sort", .none, "R"), ("random-source", .required, "source"),
    ("sort", .required, "sort"), ("output", .required, "o"), ("reverse", .none, "r"),
    ("stable", .none, "s"), ("batch-size", .required, "batch"),
    ("buffer-size", .required, "S"), ("field-separator", .required, "t"),
    ("temporary-directory", .required, "T"), ("unique", .none, "u"),
    ("zero-terminated", .none, "z"), ("parallel", .required, "parallel")]

/-- A count at the front, and what follows. -/
def count? (what : String) (cs : List Char) : Except String (Nat × List Char) :=
  let ds := cs.takeWhile Char.isDigit
  if ds.isEmpty then
    .error (what ++ ": invalid count at start of " ++ inQuotes (String.ofList cs))
  else .ok (Version.value ds, cs.drop ds.length)

/-- The letters about the order at the front, and what follows. -/
def letters (atStart atEnd : Bool) (o : Collation) : List Char → Collation × List Char
  | [] => (o, [])
  | c :: cs =>
    match o.add? atStart atEnd c with
    | some o => letters atStart atEnd o cs
    | none => (o, c :: cs)

/-- A character of a field: the field, the character if one is given, and what follows. -/
def position? (what : String) (cs : List Char) :
    Except String (Nat × Option Nat × List Char) := do
  let (field, rest) ← count? what cs
  match rest with
  | '.' :: rest =>
    let (char, rest) ← count? "invalid number after '.'" rest
    .ok (field, some char, rest)
  | rest => .ok (field, none, rest)

/-- The key that a text describes. -/
def key? (spec : String) : Except String Key :=
  let bad {α : Type} (what : String) : Except String α :=
    .error (what ++ ": invalid field specification " ++ inQuotes spec)
  do
    let (field, char, rest) ← position? "invalid number at field start" spec.toList
    if field = 0 then bad "field number is zero"
    if char = some 0 then bad "character offset is zero"
    let (ordering, rest) := letters true false {} rest
    let k : Key := { startField := field - 1, startChar := char.getD 1 - 1, ordering := ordering }
    match rest with
    | [] => .ok k
    | ',' :: rest =>
      let (field, char, rest) ← position? "invalid number after ','" rest
      if field = 0 then bad "field number is zero"
      let (ordering, rest) := letters false true k.ordering rest
      if rest.isEmpty then
        .ok { k with stop := some (field - 1, char.getD 0), ordering := ordering }
      else bad "stray character in field spec"
    | _ => bad "stray character in field spec"

/-- Takes one option. -/
def withOption (c : Call) (s : Sorting) (key value : String) : Program Sorting := do
  match key with
  | "k" =>
    match key? value with
    | .ok k => pure { s with keys := s.keys ++ [k] }
    | .error e => c.fail e 2
  | "t" =>
    match value.toList with
    | [] => c.fail "empty tab" 2
    | [tab] =>
      if s.tab.any (· != tab) then c.fail "incompatible tabs" 2
      pure { s with tab := some tab }
    | ['\x5c', '0'] => pure { s with tab := some '\x00' }
    | _ => c.fail ("multi-character tab " ++ inQuotes value) 2
  | "u" => pure { s with isUnique := true }
  | "s" => pure { s with isStable := true }
  | "z" => pure { s with stop := '\x00' }
  | "sort" =>
    let kinds := [("general-numeric", 'g'), ("human-numeric", 'h'), ("month", 'M'),
      ("numeric", 'n'), ("random", 'R'), ("version", 'V')]
    match kinds.find? fun k => k.1.startsWith value with
    | some k => pure { s with ordering := (s.ordering.add? true true k.2).getD s.ordering }
    | none => c.wrongChoice "--sort" value (kinds.map fun k => [k.1]) 1
  | key =>
    match key.toList with
    | [letter] => pure { s with ordering := (s.ordering.add? true true letter).getD s.ordering }
    | _ => pure s

/-- The lines of a file. A file that cannot be read ends the program. -/
def linesOf (c : Call) (stop : Char) (name : String) : Program (List String) := do
  let opened ← if name = "-" then pure (.ok 0) else Program.openPath name { read := true }
  match opened with
  | .error e => c.fail ("cannot read: " ++ nameText name ++ ": " ++ e.reason) 2
  | .ok fd => do
    let result ← Program.readAll fd Program.plenty []
    if fd != 0 then Program.close fd
    match result with
    | .error e => c.fail ("read failed: " ++ nameText name ++ ": " ++ e.reason) 2
    | .ok text => pure ((Line.ofText stop text).map (·.text))

/-- Where lines that should be sorted are not: the number and the line. -/
def disorder? (isOut : String → String → Bool) (n : Nat) : List String → Option (Nat × String)
  | a :: b :: rest => if isOut a b then some (n + 1, b) else disorder? isOut (n + 1) (b :: rest)
  | _ => none

end Sorting

/-- Spells keys of the old kind, such as `+1 -2`, in the new way. -/
def modernKeys (args : List String) : List String :=
  match args with
  | [] => []
  | arg :: rest =>
    match arg.toList with
    | '+' :: d :: ds =>
      if !d.isDigit then arg :: modernKeys rest
      else
        let shift (cs : List Char) (by' : Nat) : String :=
          let field := cs.takeWhile Char.isDigit
          let (char, rest) := match cs.drop field.length with
            | '.' :: cs =>
              let digits := cs.takeWhile Char.isDigit
              ("." ++ toString (Version.value digits + by'), cs.drop digits.length)
            | cs => ("", cs)
          toString (Version.value field + (if char.isEmpty || by' = 1 then 1 else by'))
            ++ char ++ String.ofList rest
        ("-k" ++ shift (d :: ds) 1) :: modernKeys rest
    | _ => arg :: modernKeys rest

def sort : Utility := fun c => do
  let p ← Sorting.options.of { c with args := modernKeys c.args } 2
  let s ← p.options.foldlM (fun s (key, value) => s.withOption c key value) ({} : Sorting)
  let keys := s.finalKeys
  match ((s.ordering :: keys.map (·.ordering)).filterMap Collation.conflict?).head? with
  | some letters => c.fail ("options '-" ++ letters ++ "' are incompatible") 2
  | none => pure ()
  let le (a b : String) : Bool := (s.compareLines keys a b).isLE
  let names := if p.operands.isEmpty then ["-"] else p.operands
  let checks := p.has "c" || p.has "C" || p.has "check"
  if checks then
    let quiet := p.has "C" || (p.value? "check").any fun v =>
      !v.isEmpty && ("quiet".startsWith v || "silent".startsWith v)
    match names with
    | [name] => do
      let lines ← Sorting.linesOf c s.stop name
      let isOut (a b : String) : Bool :=
        let o := s.compareLines keys a b
        o = .gt || (s.isUnique && o = .eq)
      match Sorting.disorder? isOut 1 lines with
      | none => pure 0
      | some (n, line) => do
        if !quiet then c.warn s!"{nameText name}:{n}: disorder: {line}"
        pure 1
    | _ :: name :: _ =>
      c.fail ("extra operand " ++ inQuotes name ++ " not allowed with -"
        ++ (if quiet then "C" else "c")) 2
    | [] => pure 0
  else
    let files ← names.mapM (Sorting.linesOf c s.stop)
    let sorted := if p.has "m" then Sorting.merge le files
      else if s.isUnique || s.isStable || !keys.isEmpty || s.ordering.reverse then
        files.flatten.mergeSort le
      else files.flatten.mergeSort fun a b => decide (a ≤ b)
    let sorted := if s.isUnique then
        Sorting.firsts (fun a b => s.compareLines keys a b = .eq) sorted
      else sorted
    let text := String.join (sorted.map fun line => line.push s.stop)
    match p.value? "o" with
    | none => do
      c.putOr 2 text
      pure 0
    | some name =>
      match ← Program.openPath name { write := true, create := true, truncate := true } with
      | .error e => c.fail ("open failed: " ++ nameText name ++ ": " ++ e.reason) 2
      | .ok fd => do
        match ← Program.write fd text with
        | .ok () => pure 0
        | .error e => c.fail ("write failed: " ++ nameText name ++ ": " ++ e.reason) 2

end HostFleet.Utility
