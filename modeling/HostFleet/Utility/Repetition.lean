import HostFleet.Utility.Excerpt
import HostFleet.Utility.Sorting

/-!
# Sorted files

What can be told by comparing each line with its neighbours: `uniq` within one file, `comm` and
`join` between two.
-/

namespace HostFleet.Utility

open Machine

/-! ## Equal lines -/

namespace Repetition

def options : Options where
  short := "cdDf:is:uw:z0123456789"
  long := [("count", .none, "c"), ("repeated", .none, "d"), ("all-repeated", .optional, "D"),
    ("group", .optional, "group"), ("skip-fields", .required, "f"), ("ignore-case", .none, "i"),
    ("skip-chars", .required, "s"), ("unique", .none, "u"), ("check-chars", .required, "w"),
    ("zero-terminated", .none, "z")]

/-- Which parts of lines are compared. -/
structure Style where
  fields : Nat := 0
  chars : Nat := 0
  width : Option Nat := none
  ignoresCase : Bool := false

def Style.key (s : Style) (line : String) : List Char :=
  let rec skip : Nat → List Char → List Char
    | 0, cs => cs
    | n + 1, [] => let _ := n; []
    | n + 1, cs => skip n ((cs.dropWhile Key.isBlank).dropWhile fun c => !Key.isBlank c)
  let cs := (skip s.fields line.toList).drop s.chars
  let cs := match s.width with
    | some n => cs.take n
    | none => cs
  if s.ignoresCase then cs.map Char.toUpper else cs

/-- The runs of lines with equal keys. -/
def runs (s : Style) : List String → List (List String)
  | [] => []
  | a :: rest =>
    match runs s rest with
    | [] => [[a]]
    | [] :: more => [a] :: more
    | (b :: bs) :: more =>
      if s.key a == s.key b then (a :: b :: bs) :: more else [a] :: (b :: bs) :: more

/-- How groups of lines are set apart by empty lines. -/
inductive Gaps where
  | none
  | before
  | between
  | after
  | both
  deriving DecidableEq

/-- The method that a word names. -/
def gaps (c : Call) (option value : String) (methods : List (String × Gaps)) : Program Gaps :=
  match methods.filter fun m => m.1.startsWith value with
  | [] => c.wrongChoice option value (methods.map fun m => [m.1]) 1
  | m :: _ => pure m.2

/-- Groups of lines with empty lines between them. -/
def spaced (stop : Char) (g : Gaps) (groups : List (List String)) : String :=
  let gap := String.singleton stop
  let texts := groups.map fun lines => String.join (lines.map fun l => l.push stop)
  match g with
  | .none => String.join texts
  | .before => String.join (texts.map (gap ++ ·))
  | .between => gap.intercalate texts
  | .after => String.join (texts.map (· ++ gap))
  | .both => if texts.isEmpty then "" else gap ++ String.join (texts.map (· ++ gap))

end Repetition

def uniq : Utility := fun c => do
  let p ← Repetition.options.of c 1
  let number (key what : String) : Program (Option Nat) :=
    match p.value? key with
    | none => pure none
    | some value =>
      match size? value with
      | some n => pure (some n)
      | none => c.fail (value ++ ": invalid number of " ++ what) 1
  let fields ← number "f" "fields to skip"
  let digits := p.options.filterMap fun o => o.1.toList.head?.bind fun d =>
    if d.isDigit then some d else none
  let fields := fields.getD (Version.value digits)
  let chars ← number "s" "bytes to skip"
  let width ← number "w" "bytes to compare"
  let st : Repetition.Style := ⟨fields, chars.getD 0, width, p.has "i"⟩
  let stop := if p.has "z" then '\x00' else '\n'
  match p.operands with
  | _ :: _ :: extra :: _ => c.misuse ("extra operand " ++ inQuotes extra) 1
  | _ => pure ()
  let all ← match p.value? "D" with
    | none => pure none
    | some "" => pure (some Repetition.Gaps.none)
    | some value => do pure (some (← Repetition.gaps c "--all-repeated" value
        [("none", .none), ("prepend", .before), ("separate", .between)]))
  let group ← match p.value? "group" with
    | none => pure none
    | some "" => pure (some Repetition.Gaps.between)
    | some value => do pure (some (← Repetition.gaps c "--group" value
        [("prepend", .before), ("append", .after), ("separate", .between), ("both", .both)]))
  if group.isSome && ["c", "d", "D", "u"].any p.has then
    c.misuse "--group is mutually exclusive with -c/-d/-D/-u" 1
  if all.isSome && p.has "c" then
    c.misuse "printing all duplicated lines and repeat counts is meaningless" 1
  let input := p.operands.headD "-"
  let opened ← if input = "-" then pure (.ok 0) else Program.openPath input { read := true }
  let fd ← match opened with
    | .ok fd => pure fd
    | .error e => c.fail (nameText input ++ ": " ++ e.reason) 1
  match p.operands[1]? with
  | none => pure ()
  | some "-" => pure ()
  | some name =>
    match ← Program.openPath name { write := true, create := true, truncate := true } with
    | .error e => c.fail (nameText name ++ ": " ++ e.reason) 1
    | .ok fd => Program.change fun pid k => (k.connect pid 1 <|
        ((k.descriptors pid).lookup fd).getD 0)
  match ← Program.readAll fd Program.plenty [] with
  | .error e => c.fail ("error reading " ++ inQuotes input ++ ": " ++ e.reason) 1
  | .ok text => do
    let runs := Repetition.runs st ((Line.ofText stop text).map (·.text))
    let shown := match group, all with
      | some g, _ => Repetition.spaced stop g runs
      | none, some g =>
        if p.has "u" then "" else Repetition.spaced stop g (runs.filter fun r => 1 < r.length)
      | none, none =>
        let wanted := runs.filter fun r =>
          !(p.has "d" && r.length ≤ 1) && !(p.has "u" && 1 < r.length)
        String.join (wanted.map fun r =>
          (if p.has "c" then padLeft 7 (toString r.length) ++ " " else "")
            ++ (r.headD "").push stop)
    c.put shown
    pure 0

/-! ## Two files side by side -/

namespace Repetition

def commOptions : Options where
  short := "123z"
  long := [("check-order", .none, "check"), ("nocheck-order", .none, "nocheck"),
    ("output-delimiter", .required, "delimiter"), ("total", .none, "total"),
    ("zero-terminated", .none, "z")]

/-- Where a line stands: only in the first file, only in the second one, or in both. -/
inductive Column where
  | left
  | right
  | both
  deriving DecidableEq

/-- Goes through two sorted files together. -/
def columns (fuel : Nat) (a b : List String) : List (Column × String) :=
  match fuel, a, b with
  | 0, _, _ => []
  | _, [], [] => []
  | fuel + 1, x :: a, [] => (.left, x) :: columns fuel a []
  | fuel + 1, [], y :: b => (.right, y) :: columns fuel [] b
  | fuel + 1, x :: a, y :: b =>
    match compare x y with
    | .lt => (.left, x) :: columns fuel a (y :: b)
    | .gt => (.right, y) :: columns fuel (x :: a) b
    | .eq => (.both, x) :: columns fuel a b

/-- Whether each line comes after the one before. -/
def isSorted (lines : List String) : Bool :=
  (lines.zip (lines.drop 1)).all fun (a, b) => decide (a ≤ b)

end Repetition

/-- Two files are needed. -/
def twoNames (c : Call) (p : Parsed) : Program (String × String) :=
  match p.operands with
  | [] => c.misuse "missing operand" 1
  | [a] => c.misuse ("missing operand after " ++ inQuotes a) 1
  | [a, b] => pure (a, b)
  | _ :: _ :: extra :: _ => c.misuse ("extra operand " ++ inQuotes extra) 1

/-- The lines of a file that has to be readable. -/
def neededLines (c : Call) (stop : Char) (name : String) : Program (List String) := do
  match ← Call.slurp name with
  | .ok text => pure ((Line.ofText stop text).map (·.text))
  | .error e => c.fail (nameText name ++ ": " ++ e.reason) 1

def comm : Utility := fun c => do
  let p ← Repetition.commOptions.of c 1
  let (a, b) ← twoNames c p
  let stop := if p.has "z" then '\x00' else '\n'
  let left ← neededLines c stop a
  let right ← neededLines c stop b
  let delimiter := (p.value? "delimiter").getD "\t"
  let delimiter := if delimiter.isEmpty then "\x00" else delimiter
  let table := Repetition.columns (left.length + right.length) left right
  let gap (key : String) : String := if p.has key then "" else delimiter
  let line : Repetition.Column × String → String
    | (.left, l) => if p.has "1" then "" else l.push stop
    | (.right, l) => if p.has "2" then "" else (gap "1" ++ l).push stop
    | (.both, l) => if p.has "3" then "" else (gap "1" ++ gap "2" ++ l).push stop
  c.put (String.join (table.map line))
  let hasSingles := table.any fun t => t.1 != .both
  let checks := p.has "check" || (hasSingles && !p.has "nocheck")
  let mut fine := true
  for (n, lines) in [("1", left), ("2", right)] do
    if checks && fine && !Repetition.isSorted lines then
      c.warn s!"file {n} is not in sorted order"
      fine := false
      if p.has "check" then Program.exit 1
  if p.has "total" then
    let count (k : Repetition.Column) : String :=
      toString (table.filter fun t => t.1 == k).length
    c.put ((delimiter.intercalate [count .left, count .right, count .both, "total"]).push stop)
  if fine then pure 0 else c.fail "input is not in sorted order" 1

/-! ## Lines with equal fields -/

namespace Joining

def options : Options where
  short := "a:e:i1:2:j:o:t:v:z"
  long := [("ignore-case", .none, "i"), ("check-order", .none, "check"),
    ("nocheck-order", .none, "nocheck"), ("header", .none, "header"),
    ("zero-terminated", .none, "z")]

/-- The fields of a line. -/
def fields (tab : Option Char) (line : String) : List String :=
  match tab with
  | some '\n' => [line]
  | some tab => line.splitOn (String.singleton tab)
  | none =>
    let rec blanks (fuel : Nat) (cs : List Char) : List String :=
      match fuel, cs.dropWhile Key.isBlank with
      | 0, _ => []
      | _, [] => []
      | fuel + 1, cs =>
        let field := cs.takeWhile fun c => !Key.isBlank c
        String.ofList field :: blanks fuel (cs.drop field.length)
    blanks (line.length + 1) line.toList

/-- A field of the output: the common one, or one of a file. -/
inductive Slot where
  | common
  | field (file index : Nat)

/-- The slots that a list names. -/
def slots? (text : String) : Except String (List Slot) :=
  let words := ((text.toList.map fun c => if c = ',' || c = '\t' then ' ' else c))
  let words := ((String.ofList words).splitOn " ").filter (· != "")
  words.mapM fun w =>
    match w.toList with
    | ['0'] => .ok .common
    | '0' :: _ => .error ("invalid field specifier: " ++ inQuotes w)
    | f :: '.' :: ds =>
      if f != '1' && f != '2' then
        .error ("invalid file number in field spec: " ++ inQuotes w)
      else match natural? (String.ofList ds) with
        | some (n + 1) => .ok (.field (f.toNat - 48) n)
        | _ => .error ("invalid field number: " ++ inQuotes (String.ofList ds))
    | f :: _ =>
      if f != '1' && f != '2' then
        .error ("invalid file number in field spec: " ++ inQuotes w)
      else .error ("invalid field specifier: " ++ inQuotes w)
    | [] => .ok .common

/-- How lines are joined. -/
structure Style where
  tab : Option Char := none
  empty : String := ""
  first : Nat := 0
  second : Nat := 0
  slots : Option (List Slot) := none
  ignoresCase : Bool := false
  stop : Char := '\n'

/-- A line with its fields. -/
structure Row where
  line : String
  fields : List String

def Style.key (s : Style) (n : Nat) (r : Row) : String :=
  let text := (r.fields[n]?).getD ""
  if s.ignoresCase then String.ofList (text.toList.map Char.toLower) else text

/-- The line for a row of each file, of which one can be missing. -/
def Style.output (s : Style) (a b : Option Row) : String :=
  let filled (t : String) : String := if t.isEmpty then s.empty else t
  let get (r : Option Row) (n : Nat) : String := filled (((r.map (·.fields)).getD [])[n]?.getD "")
  let common := match a, b with
    | some r, _ => get (some r) s.first
    | none, r => get r s.second
  let others (r : Option Row) (n : Nat) : List String := match r with
    | some r => (r.fields.eraseIdx n).map filled
    | none => []
  let parts := match s.slots with
    | some slots => slots.map fun
      | .common => common
      | .field 1 n => get a n
      | .field _ n => get b n
    | none => common :: others a s.first ++ others b s.second
  (String.singleton (s.tab.getD ' ')).intercalate parts |>.push s.stop

/-- Goes through the rows of two sorted files together. -/
def pairs (s : Style) (fuel : Nat) (a b : List Row) : List (Option Row × Option Row) :=
  match fuel, a, b with
  | 0, _, _ => []
  | _, [], [] => []
  | fuel + 1, x :: a, [] => (some x, none) :: pairs s fuel a []
  | fuel + 1, [], y :: b => (none, some y) :: pairs s fuel [] b
  | fuel + 1, x :: a, y :: b =>
    match compare (s.key s.first x) (s.key s.second y) with
    | .lt => (some x, none) :: pairs s fuel a (y :: b)
    | .gt => (none, some y) :: pairs s fuel (x :: a) b
    | .eq =>
      let key := s.key s.first x
      let same := (x :: a).takeWhile fun r => s.key s.first r == key
      let sameRight := (y :: b).takeWhile fun r => s.key s.second r == key
      (same.flatMap fun l => sameRight.map fun r => (some l, some r))
        ++ pairs s fuel ((x :: a).drop same.length) ((y :: b).drop sameRight.length)

/-- The first line that comes after a greater one, with its number. -/
def disorder? (s : Style) (field n : Nat) : List Row → Option (Nat × String)
  | a :: b :: rest =>
    if s.key field b < s.key field a then some (n + 1, b.line)
    else disorder? s field (n + 1) (b :: rest)
  | _ => none

def withOption (c : Call) (s : Style) (key value : String) : Program Style :=
  let index : Program Nat := match natural? value with
    | some (n + 1) => pure n
    | _ => c.fail ("invalid field number: " ++ inQuotes value) 1
  match key with
  | "1" => do pure { s with first := ← index }
  | "2" => do pure { s with second := ← index }
  | "j" => do
    let n ← index
    pure { s with first := n, second := n }
  | "a" =>
    if value = "1" || value = "2" then pure s
    else c.fail ("invalid field number: " ++ inQuotes value) 1
  | "v" =>
    if value = "1" || value = "2" then pure s
    else c.fail ("invalid field number: " ++ inQuotes value) 1
  | "e" => pure { s with empty := value }
  | "i" => pure { s with ignoresCase := true }
  | "z" => pure { s with stop := '\x00' }
  | "t" =>
    match value.toList with
    | [] => pure { s with tab := some '\n' }
    | [tab] => pure { s with tab := some tab }
    | ['\x5c', '0'] => pure { s with tab := some '\x00' }
    | _ => c.fail ("multi-character tab " ++ inQuotes value) 1
  | "o" =>
    if value = "auto" then pure s
    else match slots? value with
      | .ok slots => pure { s with slots := some ((s.slots.getD []) ++ slots) }
      | .error e => c.fail e 1
  | _ => pure s

end Joining

def join : Utility := fun c => do
  let p ← Joining.options.of c 1
  let s ← p.options.foldlM (fun s (key, value) => Joining.withOption c s key value) {}
  let (a, b) ← twoNames c p
  let row (line : String) : Joining.Row := ⟨line, Joining.fields s.tab line⟩
  let left := (← neededLines c s.stop a).map row
  let right := (← neededLines c s.stop b).map row
  let auto := p.options.any fun o => o == ("o", "auto")
  let s := if !auto then s else
    let fields (file key : Nat) (rows : List Joining.Row) : List Joining.Slot :=
      ((List.range ((rows.head?.map (·.fields.length)).getD 0)).filter (· != key)).map
        (.field file)
    { s with slots := some (.common :: fields 1 s.first left ++ fields 2 s.second right) }
  let wants (option file : String) : Bool := p.options.any fun o => o == (option, file)
  let singles (file : String) : Bool := wants "a" file || wants "v" file
  let paired := !p.has "v"
  let (titles, left, right) := if p.has "header" then (([(left.head?, right.head?)] :
      List (Option Joining.Row × Option Joining.Row)), left.drop 1, right.drop 1)
    else ([], left, right)
  let found := Joining.pairs s (left.length + right.length + 1) left right
  let shown := found.filter fun
    | (some _, some _) => paired
    | (some _, none) => singles "1"
    | (none, some _) => singles "2"
    | (none, none) => false
  c.put (String.join ((titles ++ shown).map fun (a, b) => s.output a b))
  let isLate := found.any fun r => r.1.isNone || r.2.isNone
  let mut fine := true
  for (name, field, rows) in [(a, s.first, left), (b, s.second, right)] do
    if (p.has "check" || isLate) && !p.has "nocheck" then
      match Joining.disorder? s field (if p.has "header" then 2 else 1) rows with
      | none => pure ()
      | some (n, line) => do
        c.warn s!"{nameText name}:{n}: is not sorted: {line}"
        fine := false
        if p.has "check" then Program.exit 1
  if fine then pure 0 else c.fail "input is not in sorted order" 1

end HostFleet.Utility
