import Std.Data.HashMap
import HostFleet.Instant.Template
import HostFleet.Text.Changes
import HostFleet.Text.Regex
import HostFleet.Utility.Calendar
import HostFleet.Utility.Dump
import HostFleet.Utility.Tally

/-!
# Comparing files

`cmp` tells where two files differ first, and `diff` which lines have to be changed to make one the
other.
-/

namespace HostFleet.Utility

open Machine

/-- The options of a call to a program that hints at its help under its name. -/
def Options.ofNamed (o : Options) (c : Call) : Program Parsed :=
  match o.parse {} false c.args with
  | .ok p => pure p
  | .error message => do
    c.warn message
    c.fail c.hint 2

/-- A message about a call that makes no sense, and a hint under the name of the program. -/
def Call.misuseNamed {α : Type} (c : Call) (message : String) : Program α := do
  c.warn message
  c.fail c.hint 2

/-- The operands of a program that compares two files. -/
def pairOf (c : Call) (p : Parsed) : Program (String × String) :=
  match p.operands with
  | [a, b] => pure (a, b)
  | _ :: _ :: extra :: _ => c.misuseNamed ("extra operand " ++ inQuotes extra)
  | names => c.misuseNamed ("missing operand after " ++ inQuotes (names.headD c.name))

/-! ## Bytes -/

/-- A byte as it can be seen. -/
def seenByte (c : Char) : String :=
  let n := c.toNat
  let (front, n) := if 128 ≤ n then ("M-", n - 128) else ("", n)
  front ++ if n < 32 then "^" ++ String.singleton (Char.ofNat (n + 64))
    else if n = 127 then "^?" else String.singleton (Char.ofNat n)

def octalByte (c : Char) : String := padLeft 3 (String.ofList (Nat.toDigits 8 c.toNat))

/-- The places at which two texts differ, with the bytes there. -/
def differences (place : Nat) : List Char → List Char → List (Nat × Char × Char)
  | a :: as, b :: bs =>
    let rest := differences (place + 1) as bs
    if a = b then rest else (place, a, b) :: rest
  | _, _ => []

def cmpOptions : Options where
  short := "bci:ln:sv"
  long := [("print-bytes", .none, "b"), ("print-chars", .none, "b"),
    ("ignore-initial", .required, "i"), ("verbose", .none, "l"), ("bytes", .required, "n"),
    ("silent", .none, "s"), ("quiet", .none, "s")]

/-- What is left out in front of each file. -/
def ignored? (text : String) : Option (Nat × Nat) :=
  match text.splitOn ":" with
  | [n] => (Utility.size? n).map fun n => (n, n)
  | [m, n] => do some (← Utility.size? m, ← Utility.size? n)
  | _ => none

def cmp : Utility := fun c => do
  let p ← cmpOptions.ofNamed c
  let skips (p : Parsed) : Program (Nat × Nat) :=
    match p.value? "i" with
    | none => pure (0, 0)
    | some text =>
      match ignored? text with
      | some pair => pure pair
      | none => c.misuseNamed ("invalid --ignore-initial value " ++ inQuotes text)
  let (skipA, skipB) ← skips p
  let limit ← match p.value? "n" with
    | none => pure none
    | some text =>
      match Utility.size? text with
      | some n => pure (some n)
      | none => c.misuseNamed ("invalid --bytes value " ++ inQuotes text)
  let number (text : String) : Program Nat :=
    match Utility.size? text with
    | some n => pure n
    | none => c.misuseNamed ("invalid --ignore-initial value " ++ inQuotes text)
  let (nameA, nameB, skipA, skipB) ← match p.operands with
    | [] => c.misuseNamed ("missing operand after " ++ inQuotes c.name)
    | [a] => pure (a, "-", skipA, skipB)
    | [a, b] => pure (a, b, skipA, skipB)
    | [a, b, s] => do pure (a, b, ← number s, skipB)
    | [a, b, s, t] => do pure (a, b, ← number s, ← number t)
    | _ :: _ :: _ :: _ :: extra :: _ => c.misuseNamed ("extra operand " ++ inQuotes extra)
  let content (name : String) : Program String := do
    match ← Call.slurp name with
    | .ok text => pure text
    | .error e => do
      if !p.has "s" then c.warn (nameText name ++ ": " ++ e.reason)
      Program.exit 2
  let textA ← content nameA
  let textB ← if nameB = nameA then pure textA else content nameB
  let cut (skip : Nat) (text : String) : List Char :=
    let cs := text.toList.drop skip
    match limit with
    | some n => cs.take n
    | none => cs
  let as := cut skipA textA
  let bs := cut skipB textB
  let found := differences 1 as bs
  let common := min as.length bs.length
  let shortName := if as.length < bs.length then some (if nameA = "-" then "-" else nameA)
    else if bs.length < as.length then some (if nameB = "-" then "-" else nameB) else none
  if p.has "s" then pure (if found.isEmpty && shortName.isNone then 0 else 1)
  else do
    let folder ← Program.folder
    let files ← Program.files
    let width : Nat :=
      let sizes := [(nameA, as.length), (nameB, bs.length)].filterMap fun (name, n) =>
        match files.lookup true folder name with
        | .ok (_, .file _) => if name = "-" then none else some n
        | _ => none
      (toString (sizes.foldl min (limit.getD (Nat.pow 2 63 - 1)))).length
    let column (place : Nat) (a b : Char) : String :=
      padLeft width (toString place) ++ " " ++ octalByte a
        ++ (if p.has "b" then " " ++ padRight 4 (seenByte a) else "") ++ " " ++ octalByte b
        ++ (if p.has "b" then " " ++ seenByte b else "") ++ "\n"
    match if p.has "l" then none else found.head? with
    | some (place, a, b) => do
      let line := ((as.take (place - 1)).filter (· = '\n')).length + 1
      c.put (nameA ++ " " ++ nameB ++ " differ: " ++ (if p.has "b" then "byte " else "char ")
        ++ toString place ++ ", line " ++ toString line
        ++ (if p.has "b" then " is " ++ octalByte a ++ " " ++ seenByte a ++ " " ++ octalByte b
          ++ " " ++ seenByte b else "") ++ "\n")
      pure 1
    | none => do
      match shortName with
      | none => pure ()
      | some name =>
        let front := as.take common
        let lines := (front.filter (· = '\n')).length
        c.warn ("EOF on " ++ name ++ (if common = 0 then " which is empty"
          else " after byte " ++ toString common ++ (if p.has "l" then ""
            else if front.getLast? = some '\n' then ", line " ++ toString lines
            else ", in line " ++ toString (lines + 1))))
      c.put (String.join (found.map fun (place, a, b) => column place a b))
      pure (if found.isEmpty && shortName.isNone then 0 else 1)

/-! ## Lines -/

/-- How changes are written. -/
inductive ChangeStyle where
  | normal
  | context
  | unified
  | editing
  | revision
  | columns
  deriving DecidableEq, Repr

/-- What `diff` does. -/
structure Diff where
  style : ChangeStyle := .normal
  context : Nat := 0
  isBrief : Bool := false
  tellsSame : Bool := false
  descends : Bool := false
  fillsMissing : Bool := false
  asText : Bool := false
  anyCase : Bool := false
  /-- Which blanks do not count: all, how many there are, or those at the end. -/
  anyBlanks : Option Char := none
  anyEmpty : Bool := false
  dropsReturns : Bool := false
  passes : Option Regex := none
  labels : List String := []
  width : Nat := 130
  onlyChanges : Bool := false
  leftOnly : Bool := false
  expandsTabs : Bool := false
  alignsTabs : Bool := false
  /-- The options as they were written. -/
  optionText : String := ""

/-- A file to compare. -/
structure DiffFile where
  name : String
  text : String := ""
  time : Int := 0

namespace Diff

def blankEnd (cs : List Char) : List Char := (cs.reverse.dropWhile isSpace).reverse

/-- Runs of blanks as one blank. -/
def oneBlank : List Char → List Char
  | [] => []
  | c :: rest =>
    if isSpace c then
      match oneBlank rest with
      | ' ' :: more => ' ' :: more
      | more => ' ' :: more
    else c :: oneBlank rest

/-- What of a line counts. -/
def key (d : Diff) (l : Line) : String :=
  let cs := l.text.toList
  let cs := if d.dropsReturns && cs.getLast? = some '\r' then cs.dropLast else cs
  let cs := if d.anyCase then cs.map Char.toLower else cs
  match d.anyBlanks with
  | some 'w' => String.ofList (cs.filter (!isSpace ·))
  | some 'b' => String.ofList (blankEnd (oneBlank cs))
  | some _ => String.ofList (blankEnd cs)
  | none => String.ofList cs ++ (if l.isEnded || d.style = .editing then "" else "\n")

/-- Numbers for lines, equal ones for those of which the same counts. -/
def numbered (d : Diff) (old new : List Line) : Array Nat × Array Nat :=
  let step (known : Std.HashMap String Nat × Array Nat) (l : Line) :
      Std.HashMap String Nat × Array Nat :=
    let key := d.key l
    match known.1[key]? with
    | some n => (known.1, known.2.push n)
    | none => (known.1.insert key known.1.size, known.2.push known.1.size)
  let (known, a) := old.foldl step (∅, #[])
  let (_, b) := new.foldl step (known, #[])
  (a, b)

/-- Whether a change is about nothing but lines that do not count. -/
def isTrivial (d : Diff) (old new : Array Line) (c : Change) : Bool :=
  let lines := (old.extract c.oldStart (c.oldStart + c.deleted)).toList
    ++ (new.extract c.newStart (c.newStart + c.inserted)).toList
  let isBlankLine (l : Line) : Bool :=
    if d.anyBlanks.isSome then l.text.toList.all isSpace else l.text.isEmpty
  (d.anyEmpty || d.passes.isSome) && lines.all fun l =>
    (d.anyEmpty && isBlankLine l)
      || match d.passes with
        | some r => r.isMatch {} l.text
        | none => false

/-- A line behind a mark. -/
def marked (d : Diff) (mark : String) (l : Line) : String :=
  let mark := if d.alignsTabs then (mark.trimAsciiEnd).toString ++ "\t" else mark
  mark ++ l.text ++ (if l.isEnded then "\n" else "\n\x5c No newline at end of file\n")

/-- A range of lines, by the numbers of its first and last. -/
def range (start count : Nat) : String :=
  if 1 < count then toString (start + 1) ++ "," ++ toString (start + count)
  else toString (start + count)

def letter (c : Change) : String :=
  if c.deleted = 0 then "a" else if c.inserted = 0 then "d" else "c"

def taken (lines : Array Line) (start count : Nat) : List Line :=
  (lines.extract start (start + count)).toList

def normalText (d : Diff) (old new : Array Line) (c : Change) : String :=
  let gone := (taken old c.oldStart c.deleted).map (d.marked "< ")
  let come := (taken new c.newStart c.inserted).map (d.marked "> ")
  range c.oldStart c.deleted ++ letter c ++ range c.newStart c.inserted ++ "\n"
    ++ String.join gone ++ (if gone.isEmpty || come.isEmpty then "" else "---\n")
    ++ String.join come

/-- Commands of a line editor. A line that is only a dot would end what is put in. -/
def editingText (new : Array Line) (c : Change) : String :=
  let put := (taken new c.newStart c.inserted).foldl (fun (done, isOpen) l =>
    let done := if isOpen then done else done ++ "a\n"
    if l.text = "." then (done ++ "..\n.\ns/.//\n", false)
    else (done ++ l.text ++ "\n", true)) ("", true)
  range c.oldStart c.deleted ++ letter c ++ "\n"
    ++ if c.inserted = 0 then "" else put.1 ++ (if put.2 then ".\n" else "")

def revisionText (new : Array Line) (c : Change) : String :=
  (if c.deleted = 0 then ""
    else "d" ++ toString (c.oldStart + 1) ++ " " ++ toString c.deleted ++ "\n")
  ++ if c.inserted = 0 then ""
    else "a" ++ toString (c.oldStart + c.deleted) ++ " " ++ toString c.inserted ++ "\n"
      ++ String.join ((taken new c.newStart c.inserted).map fun l =>
        l.text ++ if l.isEnded then "\n" else "")

/-- Changes that stand so near to each other that their surroundings meet. -/
def grouped (threshold : Nat) : List Change → List (List Change)
  | [] => []
  | c :: cs =>
    match grouped threshold cs with
    | (next :: group) :: groups =>
      if next.oldStart - (c.oldStart + c.deleted) < threshold then (c :: next :: group) :: groups
      else [c] :: (next :: group) :: groups
    | groups => [c] :: groups

/-- The lines around a group of changes: where they start and stop on both sides. -/
def surroundings (d : Diff) (old new : Array Line) (group : List Change) :
    (Nat × Nat) × (Nat × Nat) :=
  match group.head?, group.getLast? with
  | some first, some last =>
    ((first.oldStart - d.context, min old.size (last.oldStart + last.deleted + d.context)),
      (first.newStart - d.context, min new.size (last.newStart + last.inserted + d.context)))
  | _, _ => ((0, 0), (0, 0))

/-- A group of changes in one text with its surroundings. -/
def unifiedText (d : Diff) (old new : Array Line) (group : List Change) : String :=
  let ((x, xEnd), (y, yEnd)) := d.surroundings old new group
  let span (start stop : Nat) : String :=
    if stop ≤ start then toString stop ++ ",0"
    else if stop = start + 1 then toString stop
    else toString (start + 1) ++ "," ++ toString (stop - start)
  let (body, at', _) := group.foldl (fun (done, i, j) c =>
    let same := (taken old i (c.oldStart - i)).map (d.marked " ")
    let gone := (taken old c.oldStart c.deleted).map (d.marked "-")
    let come := (taken new c.newStart c.inserted).map (d.marked "+")
    (done ++ same ++ gone ++ come, c.oldStart + c.deleted, j + 1)) (([] : List String), x, 0)
  let tail := (taken old at' (xEnd - at')).map (d.marked " ")
  "@@ -" ++ span x xEnd ++ " +" ++ span y yEnd ++ " @@\n" ++ String.join (body ++ tail)

/-- A group of changes in two texts with its surroundings. -/
def contextText (d : Diff) (old new : Array Line) (group : List Change) : String :=
  let ((x, xEnd), (y, yEnd)) := d.surroundings old new group
  let span (start stop : Nat) : String :=
    if stop ≤ start + 1 then toString stop else toString (start + 1) ++ "," ++ toString stop
  let side (lines : Array Line) (start stop : Nat) (place : Change → Nat × Nat) (lone : String) :
      String :=
    let (body, at') := group.foldl (fun (done, i) c =>
      let (first, count) := place c
      let same := (taken lines i (first - i)).map (d.marked "  ")
      let mark := if c.deleted = 0 || c.inserted = 0 then lone else "! "
      (done ++ same ++ (taken lines first count).map (d.marked mark), first + count))
      (([] : List String), start)
    String.join (body ++ (taken lines at' (stop - at')).map (d.marked "  "))
  let anyGone := group.any (0 < ·.deleted)
  let anyCome := group.any (0 < ·.inserted)
  "***************\n*** " ++ span x xEnd ++ " ****\n"
    ++ (if anyGone then side old x xEnd (fun c => (c.oldStart, c.deleted)) "- " else "")
    ++ "--- " ++ span y yEnd ++ " ----\n"
    ++ (if anyCome then side new y yEnd (fun c => (c.newStart, c.inserted)) "+ " else "")

/-! ### Side by side -/

/-- Blanks from one column to another, with tabs as far as they reach. -/
def blanksTo (d : Diff) (fuel start stop : Nat) : String :=
  match fuel with
  | 0 => ""
  | fuel + 1 =>
    let next := start + 8 - start % 8
    if !d.expandsTabs && next ≤ stop then "\t" ++ blanksTo d fuel next stop
    else "".pushn ' ' (stop - start)

/-- As much of a line as half the width holds, and where it ends. -/
def halfLine (d : Diff) (bound : Nat) (l : Line) : String × Nat :=
  let (done, _, at') := l.text.toList.foldl (fun ((done, i, o) : List Char × Nat × Nat) c =>
    if c = '\t' then
      let next := i + 8 - i % 8
      if i != o then (done, next, o)
      else if d.expandsTabs then
        let stop := min next bound
        (List.replicate (stop - o) ' ' ++ done, next, max o stop)
      else if next < bound then (c :: done, next, next)
      else (done, next, o)
    else if i < bound then (c :: done, i + 1, i + 1) else (done, i + 1, o)) ([], 0, 0)
  (String.ofList done.reverse, at')

/-- The width of each half, and the column in which the right one starts. -/
def halves (d : Diff) : Nat × Nat :=
  let tab := if d.expandsTabs then 1 else 8
  let offset := (d.width + tab + 3) / (2 * tab) * tab
  let half := min (offset - 3) (d.width - offset)
  (half, if half = 0 then d.width else offset)

/-- A line of two halves with a mark between them. -/
def rowText (d : Diff) (left : Option Line) (mark : Char) (right : Option Line) : String :=
  let (half, offset) := d.halves
  let ends (l : Option Line) : Bool := l.any (·.isEnded)
  let (text, column) := match left with
    | some l => d.halfLine half l
    | none => ("", 0)
  let (text, column) :=
    if mark = ' ' then (text, column)
    else
      let place := (half + offset - 1) / 2
      let mark := if mark = '|' && ends left != ends right then
          (if ends left then '/' else '\x5c') else mark
      (text ++ d.blanksTo d.width column place ++ String.singleton mark, max column place + 1)
  let text := match right with
    | some l =>
      if l.text.isEmpty then text
      else text ++ d.blanksTo d.width column offset ++ (d.halfLine half l).1
    | none => text
  text ++ if ends left || ends right then "\n" else ""

/-- Both files side by side. -/
def columnsText (d : Diff) (old new : Array Line) (changes : List Change) : String :=
  let common (i j count : Nat) : List String :=
    if d.onlyChanges then []
    else (List.range count).map fun n =>
      if d.leftOnly then d.rowText old[i + n]? '(' none else d.rowText old[i + n]? ' ' new[j + n]?
  let (rows, i, j) := changes.foldl (fun (done, i, j) c =>
    let same := common i j (c.oldStart - i)
    let both := min c.deleted c.inserted
    let pairs := (List.range both).map fun n =>
      d.rowText old[c.oldStart + n]? '|' new[c.newStart + n]?
    let come := (taken new (c.newStart + both) (c.inserted - both)).map fun l =>
      d.rowText none '>' (some l)
    let gone := (taken old (c.oldStart + both) (c.deleted - both)).map fun l =>
      d.rowText (some l) '<' none
    (done ++ same ++ pairs ++ come ++ gone, c.oldStart + c.deleted, c.newStart + c.inserted))
    (([] : List String), 0, 0)
  String.join (rows ++ common i j (old.size - i))

/-! ### Files -/

/-- The two lines that name the files. -/
def header (d : Diff) (a b : DiffFile) : String :=
  let line (mark : String) (i : Nat) (f : DiffFile) : String :=
    mark ++ " " ++ (match d.labels[i]? with
      | some label => label
      | none => f.name ++ "\t" ++ (momentOf {} f.time).format "%Y-%m-%d %H:%M:%S.%N %z") ++ "\n"
  if d.style = .unified then line "---" 0 a ++ line "+++" 1 b
  else line "***" 0 a ++ line "---" 1 b

/-- What is said about two texts, and whether they differ. -/
def compareTexts (d : Diff) (a b : DiffFile) : String × Bool :=
  let old := (Line.ofText '\n' a.text).toArray
  let new := (Line.ofText '\n' b.text).toArray
  let (xs, ys) := d.numbered old.toList new.toList
  let changes := Change.between d.context xs ys
  let told := changes.filter fun c => !d.isTrivial old new c
  if d.style = .columns then (d.columnsText old new changes, !told.isEmpty)
  else if told.isEmpty then ("", false)
  else
    let groups := (grouped (2 * d.context + 1) changes).filter fun g =>
      g.any fun c => !d.isTrivial old new c
    let text := match d.style with
      | .context => d.header a b ++ String.join (groups.map (d.contextText old new))
      | .unified => d.header a b ++ String.join (groups.map (d.unifiedText old new))
      | .editing => String.join (told.reverse.map (editingText new))
      | .revision => String.join (told.map (revisionText new))
      | _ => String.join (told.map (d.normalText old new))
    (text, true)

def isBinary (text : String) : Bool := (text.toList.take 32768).contains '\x00'

/-- Says something about two files. -/
def say (c : Call) (text : String) (status : Nat) : Program Nat := do
  c.putOr 2 text
  pure status

/-- Compares two files; `isInside` tells that they were found in folders. -/
def compareFiles (c : Call) (d : Diff) (isInside : Bool) (a b : DiffFile) : Program Nat := do
  let front := if isInside then "diff" ++ d.optionText ++ " " ++ nameText a.name ++ " "
    ++ nameText b.name ++ "\n" else ""
  let both := d.labels.getD 0 a.name ++ " and " ++ d.labels.getD 1 b.name
  let same := if d.tellsSame then "Files " ++ both ++ " are identical\n" else ""
  let differ (what : String) : String := what ++ " " ++ both ++ " differ\n"
  if !d.asText && (isBinary a.text || isBinary b.text) then
    if a.text = b.text then say c same 0
    else say c (differ (if d.isBrief then "Files" else "Binary files")) 1
  else
    let (text, differs) := d.compareTexts a b
    let ended (f : DiffFile) : Bool := f.text.isEmpty || f.text.endsWith "\n"
    if d.isBrief then if differs then say c (differ "Files") 1 else say c same 0
    else if d.style = .editing && a.text != b.text && !(ended a && ended b) then do
      c.putOr 2 text
      for f in [a, b] do
        if !ended f then c.warn (f.name ++ ": No newline at end of file\n")
      pure 2
    else if differs then say c (front ++ text) 1
    else say c (text ++ same) 0

/-- What a name leads to: nothing, a folder, or a file with its text. -/
inductive Found where
  | missing (e : OsError)
  | folder
  | file (f : DiffFile)

def find (name : String) : Program Found := do
  if name = "-" then
    match ← Call.slurp "-" with
    | .ok text => pure (.file { name := name, text := text, time := (← Program.now) })
    | .error e => pure (.missing e)
  else
    let folder ← Program.folder
    let files ← Program.files
    match files.lookup true folder name with
    | .error e => pure (.missing e)
    | .ok (_, .folder) => pure .folder
    | .ok (place, _) =>
      match ← Program.readFile name with
      | .ok text => pure (.file { name := name, text := text, time := files.time place })
      | .error e => pure (.missing e)

def inFolder (folder name : String) : String :=
  if folder.endsWith "/" then folder ++ name else folder ++ "/" ++ name

/-- Compares what two names lead to, and folders with what is in them. -/
def compareNames (c : Call) (d : Diff) (fuel : Nat) (isInside : Bool) (a b : String) :
    Program Nat :=
  match fuel with
  | 0 => pure 2
  | fuel + 1 => do
    let foundA ← find a
    let foundB ← if a = b then pure foundA else find b
    let complain (name : String) (e : OsError) : Program Nat := do
      c.warn (nameText name ++ ": " ++ e.reason)
      pure 2
    let empty (name : String) : DiffFile := { name := name }
    let last (name : String) : String := ((name.splitOn "/").filter (!·.isEmpty)).getLastD name
    match foundA, foundB with
    | .missing e, .missing e' => do
      if a != b then discard (complain a e)
      complain b e'
    | .missing e, .file f =>
      if d.fillsMissing && e = .notFound then compareFiles c d isInside (empty a) f
      else complain a e
    | .file f, .missing e =>
      if d.fillsMissing && e = .notFound then compareFiles c d isInside f (empty b)
      else complain b e
    | .missing e, .folder => complain a e
    | .folder, .missing e => complain b e
    | .file f, .file g => compareFiles c d isInside f g
    | .folder, .file _ =>
      if isInside then
        say c ("File " ++ a ++ " is a directory while file " ++ b ++ " is a regular file\n") 1
      else compareNames c d fuel false (inFolder a (last b)) b
    | .file _, .folder =>
      if isInside then
        say c ("File " ++ a ++ " is a regular file while file " ++ b ++ " is a directory\n") 1
      else compareNames c d fuel false a (inFolder b (last a))
    | .folder, .folder =>
      if a = b then pure 0
      else if isInside && !d.descends then
        say c ("Common subdirectories: " ++ a ++ " and " ++ b ++ "\n") 0
      else do
        let folder ← Program.folder
        let files ← Program.files
        let inside (name : String) : List String :=
          match files.lookup true folder name with
          | .ok (place, _) => files.entries place
          | .error _ => []
        let ours := inside a
        let theirs := inside b
        let names := ((ours ++ theirs).mergeSort fun x y => decide (x ≤ y)).eraseReps
        names.foldlM (fun status name => do
          let found ←
            if ours.contains name && theirs.contains name || d.fillsMissing then
              compareNames c d fuel true (inFolder a name) (inFolder b name)
            else
              let owner := if ours.contains name then a else b
              say c ("Only in " ++ owner ++ ": " ++ name ++ "\n") 1
          pure (max status found)) 0

end Diff

def diffOptions : Options where
  short := "0123456789abBcC:dD:eEfF:hHiI:L:nNpPqrsS:tTuU:vwW:x:X:yZ"
  long := [("text", .none, "a"), ("ignore-space-change", .none, "b"),
    ("ignore-blank-lines", .none, "B"), ("context", .optional, "C"), ("minimal", .none, "d"),
    ("ed", .none, "e"), ("ignore-tab-expansion", .none, "E"), ("ignore-case", .none, "i"),
    ("ignore-matching-lines", .required, "I"), ("label", .required, "L"), ("rcs", .none, "n"),
    ("new-file", .none, "N"), ("brief", .none, "q"), ("recursive", .none, "r"),
    ("report-identical-files", .none, "s"), ("expand-tabs", .none, "t"),
    ("initial-tab", .none, "T"), ("unified", .optional, "U"), ("ignore-all-space", .none, "w"),
    ("width", .required, "W"), ("side-by-side", .none, "y"), ("ignore-trailing-space", .none, "Z"),
    ("normal", .none, "normal"), ("strip-trailing-cr", .none, "cr"),
    ("suppress-common-lines", .none, "changes"), ("left-column", .none, "left"),
    ("color", .optional, "color"), ("speed-large-files", .none, "H")]

/-- Reads one option. `style` is the style that was asked for up to here. -/
def Diff.option (c : Call) (d : Diff) (style : Option ChangeStyle) (key value : String) :
    Program (Diff × Option ChangeStyle) := do
  let choose (d : Diff) (chosen : ChangeStyle) : Program (Diff × Option ChangeStyle) :=
    if style.any (· != chosen) then c.misuseNamed "conflicting output style options"
    else pure ({ d with style := chosen }, some chosen)
  let around (chosen : ChangeStyle) : Program (Diff × Option ChangeStyle) := do
    if value.isEmpty then choose { d with context := max d.context 3 } chosen
    else match natural? value with
      | some n => choose { d with context := max d.context n } chosen
      | none => c.misuseNamed ("invalid context length " ++ inQuotes value)
  let keep (d : Diff) : Program (Diff × Option ChangeStyle) := pure (d, style)
  match key with
  | "a" => keep { d with asText := true }
  | "b" => keep { d with anyBlanks := if d.anyBlanks = some 'w' then some 'w' else some 'b' }
  | "B" => keep { d with anyEmpty := true }
  | "c" => choose { d with context := max d.context 3 } .context
  | "C" => around .context
  | "e" => choose d .editing
  | "i" => keep { d with anyCase := true }
  | "I" =>
    match Regex.read Regex.basic value with
    | .ok (r, _) => keep { d with passes := some r }
    | .error e => c.fail (value ++ ": " ++ e.message) 2
  | "L" =>
    if d.labels.length = 2 then c.fail "too many file label options" 2
    else keep { d with labels := d.labels ++ [value] }
  | "n" => choose d .revision
  | "N" => keep { d with fillsMissing := true }
  | "q" => keep { d with isBrief := true }
  | "r" => keep { d with descends := true }
  | "s" => keep { d with tellsSame := true }
  | "t" => keep { d with expandsTabs := true }
  | "T" => keep { d with alignsTabs := true }
  | "u" => choose { d with context := max d.context 3 } .unified
  | "U" => around .unified
  | "w" => keep { d with anyBlanks := some 'w' }
  | "W" =>
    match natural? value with
    | some n =>
      if 0 < n then keep { d with width := n }
      else c.misuseNamed ("invalid width " ++ inQuotes value)
    | none => c.misuseNamed ("invalid width " ++ inQuotes value)
  | "y" => choose d .columns
  | "Z" => keep { d with anyBlanks := if d.anyBlanks.isSome then d.anyBlanks else some 'Z' }
  | "normal" => choose d .normal
  | "cr" => keep { d with dropsReturns := true }
  | "changes" => keep { d with onlyChanges := true }
  | "left" => keep { d with leftOnly := true }
  | _ => keep d

def diff : Utility := fun c => do
  let p ← diffOptions.ofNamed c
  let (d, _) ← p.options.foldlM (fun (d, style) (key, value) =>
    Diff.option c d style key value) (({} : Diff), (none : Option ChangeStyle))
  let digits := (p.options.map (·.1)).filter fun key => (natural? key).isSome
  let d := match natural? (String.join digits) with
    | none => d
    | some n =>
      let isExplicit := p.has "C" || p.has "U"
      let isAround := d.style == ChangeStyle.context || d.style == ChangeStyle.unified
      if isAround && (d.context < n || !isExplicit) then { d with context := n } else d
  let (a, b) ← pairOf c p
  let rec given (operands : List String) : List String → List String
    | [] => []
    | arg :: rest =>
      match operands with
      | name :: names => if arg = name then given names rest else arg :: given operands rest
      | [] => arg :: given [] rest
  let d := { d with
    optionText := String.join ((given p.operands c.args).map fun arg => " " ++ nameText arg) }
  Diff.compareNames c d 1000 false a b

end HostFleet.Utility
