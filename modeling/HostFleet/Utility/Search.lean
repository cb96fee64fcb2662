import HostFleet.Text.Regex
import HostFleet.Utility.Excerpt

/-!
# Searching files

`grep` shows the lines of files in which a pattern matches, or tells how many they are, or where
they stand.
-/

namespace HostFleet.Utility

open Machine

namespace Search

/-- What is shown of a line that was selected. -/
inductive Shown where
  | lines
  /-- Only the parts that match. -/
  | parts
  | count
  /-- The names of files with, or without, such a line. -/
  | names
  | otherNames
  | nothing
  deriving DecidableEq

structure Style where
  patterns : List Regex
  options : Regex.Options := {}
  inverted : Bool := false
  shown : Shown := .lines
  /-- After how many selected lines to stop. -/
  most : Option Nat := none
  before : Nat := 0
  after : Nat := 0
  hasGroups : Bool := true
  numbers : Bool := false
  offsets : Bool := false
  aligned : Bool := false
  /-- Whether the name of the file stands in front of each line. -/
  hasNames : Bool := false
  nameStop : String := ":"
  isText : Bool := false
  skipsBinary : Bool := false
  stop : Char := '\n'
  colored : Bool := false
  inputName : String := "(standard input)"

/-- The first match of any of the patterns from a place on, and of several the longest. -/
def Style.find? (s : Style) (text : Array Char) (from' : Nat) : Option Regex.Match :=
  s.patterns.foldl (fun best r =>
    match best, r.search? s.options text from' with
    | some a, some b =>
      if b.start < a.start || (b.start = a.start && a.stop < b.stop) then some b else some a
    | none, found => found
    | found, none => found) none

def Style.selects (s : Style) (line : String) : Bool :=
  let text := line.toList.toArray
  (s.patterns.any fun r => (r.search? s.options text 0).isSome) != s.inverted

/-- The parts of a line that match and are not empty. -/
def Style.parts (s : Style) (text : Array Char) (fuel from' : Nat) : List Regex.Match :=
  match fuel with
  | 0 => []
  | fuel + 1 =>
    match s.find? text from' with
    | none => []
    | some m =>
      if m.start = m.stop then
        if m.stop < text.size then s.parts text fuel (m.stop + 1) else []
      else m :: s.parts text fuel m.stop

def color (code text : String) : String :=
  "\x1b[" ++ code ++ "m\x1b[K" ++ text ++ "\x1b[m\x1b[K"

/-- What stands in front of a line or part: the name, the number and the offset. -/
def Style.head (s : Style) (name mark : String) (number offset : Nat) : String :=
  let paint (code text : String) : String := if s.colored then color code text else text
  let sign := paint "36" mark
  let number' := toString number
  let number' := if s.aligned then padLeft 4 number' else number'
  (if s.hasNames then paint "35" name ++ (if s.nameStop = "\x00" then "\x00" else sign) else "")
    ++ (if s.numbers then paint "32" number' ++ sign else "")
    ++ (if s.offsets then paint "32" (toString offset) ++ sign else "")

/-- A line with its matches in color. -/
def Style.painted (s : Style) (line : String) : String :=
  let text := line.toList.toArray
  let (pieces, last) := (s.parts text (text.size + 2) 0).foldl
    (fun ((pieces, last) : List String × Nat) m =>
      (color "01;31" (String.ofList (m.text text))
        :: String.ofList (text.extract last m.start).toList :: pieces, m.stop)) ([], 0)
  String.join (String.ofList (text.extract last text.size).toList :: pieces).reverse

/-- Where the search in a file stands. -/
structure State where
  number : Nat := 0
  offset : Nat := 0
  count : Nat := 0
  /-- The last lines that were not shown, last first, with their numbers and offsets. -/
  waiting : List (Nat × Nat × String) := []
  /-- How many lines are still to be shown behind a selected one. -/
  left : Nat := 0
  /-- The number of the last line shown. -/
  last : Nat := 0
  hasShown : Bool := false
  held : Held := {}

/-- The output for one line. -/
def Style.step (s : Style) (name : String) (st : State) (line : Line) : String × State :=
  let number := st.number + 1
  let offset := st.offset
  let st := { st with number := number, offset := offset + line.text.length + 1 }
  let whole (mark : String) (n offset : Nat) (text : String) : String :=
    s.head name mark n offset ++ (if s.colored && mark = ":" && !s.inverted then s.painted text
      else text).push s.stop
  let isOpen := s.most.all (st.count < ·)
  if isOpen && s.selects line.text then
    let st := { st with count := st.count + 1 }
    match s.shown with
    | .lines =>
      let earlier := (st.waiting.take s.before).reverse
      let first := match earlier with
        | (n, _) :: _ => n
        | [] => number
      let gap := st.hasShown && s.hasGroups && 0 < s.before + s.after && st.last + 1 < first
      let text := (if gap then (if s.colored then color "36" "--" else "--") ++ "\n" else "")
        ++ String.join (earlier.map fun (n, o, t) => whole "-" n o t)
        ++ whole ":" number offset line.text
      (text, { st with waiting := [], left := s.after, last := number, hasShown := true })
    | .parts =>
      if s.inverted then ("", st)
      else
        let text := line.text.toList.toArray
        let parts := s.parts text (text.size + 2) 0
        let shown (m : Regex.Match) : String :=
          let part := String.ofList (m.text text)
          s.head name ":" number (offset + m.start)
            ++ (if s.colored then color "01;31" part else part).push s.stop
        (String.join (parts.map shown), st)
    | _ => ("", st)
  else if s.shown = .lines then
    if 0 < st.left then
      (whole "-" number offset line.text,
        { st with left := st.left - 1, last := number, waiting := [] })
    else ("", { st with waiting := ((number, offset, line.text) :: st.waiting).take s.before })
  else ("", st)

/-- Whether nothing more can come of a file. -/
def Style.isDone (s : Style) (st : State) : Bool :=
  match s.shown with
  | .nothing => 0 < st.count
  | .names => 0 < st.count
  | .otherNames => 0 < st.count
  | _ => s.most.any (· ≤ st.count) && (st.left = 0 || s.shown != .lines)

/-- Goes through what a descriptor gives. -/
def Style.scan (s : Style) (c : Call) (name : String) (fd fuel : Nat) (rest : String)
    (binary : Bool) (st : State) : Program (Except OsError (State × Bool)) :=
  match fuel with
  | 0 => pure (.ok (st, binary))
  | fuel + 1 => do
    if s.isDone st then pure (.ok (st, binary))
    else match ← Program.read fd with
    | .error e => pure (.error e)
    | .ok text =>
      let isBinary := binary || (!s.isText && s.stop = '\n' && text.contains '\x00')
      let (lines, rest) := if text.isEmpty then
          ((if rest.isEmpty then [] else [{ text := rest, isEnded := false }]), "")
        else takeLines s.stop (rest ++ text)
      let silent := isBinary && (s.shown = .lines || s.shown = .parts)
      let st ← lines.foldlM (fun (st : State) line => do
        if s.isDone st || (silent && 0 < st.count) then pure st
        else
          let (out, st) := s.step name st line
          if silent || out.isEmpty then pure st
          else pure { st with held := ← st.held.add c 2 out }) st
      if text.isEmpty || (silent && 0 < st.count) then pure (.ok (st, isBinary))
      else s.scan c name fd fuel rest isBinary st

/-- What is left to say about a file. -/
def Style.summary (s : Style) (c : Call) (name : String) (binary : Bool) (st : State) :
    Program Unit := do
  discard (st.held.flush c 2)
  let stop := if s.nameStop = "\x00" then "\x00" else "\n"
  let shownName := if s.colored then color "35" name else name
  match s.shown with
  | .count => c.putOr 2 (s.head name ":" 0 0 ++ toString st.count ++ "\n")
  | .names => if 0 < st.count then c.putOr 2 (shownName ++ stop) else pure ()
  | .otherNames => if st.count = 0 then c.putOr 2 (shownName ++ stop) else pure ()
  | .nothing => pure ()
  | _ =>
    if binary && 0 < st.count && !s.inverted then c.warn (name ++ ": binary file matches")
    else pure ()

/-- Searches a file. Whether a line was selected. -/
def Style.searchFile (s : Style) (c : Call) (name : String) (fd : Nat) :
    Program (Except OsError Bool) := do
  if s.most = some 0 then pure (.ok false)
  else match ← s.scan c name fd Program.plenty "" false {} with
  | .error e => pure (.error e)
  | .ok (st, binary) => do
    if binary && s.skipsBinary then pure (.ok false)
    else
      s.summary c name binary st
      pure (.ok (0 < st.count))

/-! ## The call -/

def options : Options where
  short := "0123456789A:B:C:D:EFGHILPTUVX:abcd:e:f:hiLlm:noqRrsuvwxyZz"
  long := [("basic-regexp", .none, "G"), ("extended-regexp", .none, "E"),
    ("fixed-strings", .none, "F"), ("perl-regexp", .none, "P"), ("after-context", .required, "A"),
    ("before-context", .required, "B"), ("context", .required, "C"),
    ("group-separator", .required, "separator"), ("no-group-separator", .none, "no-separator"),
    ("binary-files", .required, "binary"), ("binary", .none, "U"),
    ("byte-offset", .none, "b"), ("color", .optional, "color"), ("colour", .optional, "color"),
    ("count", .none, "c"), ("devices", .required, "D"), ("directories", .required, "d"),
    ("exclude", .required, "exclude"), ("exclude-from", .required, "exclude-from"),
    ("exclude-dir", .required, "exclude-dir"), ("file", .required, "f"),
    ("files-with-matches", .none, "l"), ("files-without-match", .none, "L"),
    ("include", .required, "include"), ("ignore-case", .none, "i"),
    ("no-ignore-case", .none, "no-i"), ("initial-tab", .none, "T"),
    ("label", .required, "label"), ("line-buffered", .none, "u"), ("line-number", .none, "n"),
    ("line-regexp", .none, "x"), ("max-count", .required, "m"), ("no-filename", .none, "h"),
    ("no-messages", .none, "s"), ("null", .none, "Z"), ("null-data", .none, "z"),
    ("only-matching", .none, "o"), ("quiet", .none, "q"), ("recursive", .none, "r"),
    ("dereference-recursive", .none, "R"), ("regexp", .required, "e"),
    ("invert-match", .none, "v"), ("silent", .none, "q"), ("text", .none, "a"),
    ("with-filename", .none, "H"), ("word-regexp", .none, "w"), ("version", .none, "V")]

def usage : String :=
  "Usage: grep [OPTION]... PATTERNS [FILE]...\nTry 'grep --help' for more information.\n"

/-- The signs at the beginning of an expression that repeat nothing. -/
def looseStarts (atStart : Bool) (fuel : Nat) (cs : List Char) : List String :=
  match fuel, cs with
  | 0, _ => []
  | _, [] => []
  | fuel + 1, c :: rest =>
    if c = '\x5c' then looseStarts false fuel (rest.drop 1)
    else if c = '[' then
      let inner := match rest with
        | '^' :: ']' :: more => more
        | ']' :: more => more
        | more => more
      looseStarts false fuel ((inner.dropWhile (· != ']')).drop 1)
    else if c = '*' || c = '+' || c = '?' then
      (if atStart then [String.singleton c] else []) ++ looseStarts atStart fuel rest
    else if c = '\x7b' && atStart && rest.head?.any Char.isDigit && rest.contains '\x7d' then
      "\x7b...\x7d" :: looseStarts atStart fuel ((rest.dropWhile (· != '\x7d')).drop 1)
    else looseStarts (c = '(' || c = '|' || c = '^') fuel rest

/-- The expression of one pattern. -/
def pattern (p : Parsed) (kind text : String) : Except Regex.Fault Regex := do
  let r ← if kind = "F" then
      .ok (text.toList.foldl (fun r c => .seq r (.char c)) Regex.empty)
    else
      (Regex.read (if kind = "E" || kind = "P" then Regex.extended else Regex.basic) text).map
        Prod.fst
  if p.has "x" then .ok (.seq .lineStart (.seq r .lineEnd))
  else if p.has "w" then .ok (.seq (.edge 'l') (.seq r (.edge 'r')))
  else .ok r

/-- Whether the name of a file fits a pattern with stars and question marks. -/
def fitsName (fuel : Nat) (pattern name : List Char) : Bool :=
  match fuel, pattern, name with
  | 0, _, _ => false
  | _, [], name => name.isEmpty
  | fuel + 1, '*' :: rest, name =>
    fitsName fuel rest name || (!name.isEmpty && fitsName fuel ('*' :: rest) (name.drop 1))
  | fuel + 1, '?' :: rest, _ :: name => fitsName fuel rest name
  | fuel + 1, c :: rest, d :: name => c = d && fitsName fuel rest name
  | _, _ :: _, [] => false

/-- The files below a folder, by their paths. -/
def filesBelow (files : Files) (folder : String) (fuel : Nat) (p : Parsed) (path : String) :
    List String :=
  let texts (key : String) : List String := (p.options.filter (·.1 == key)).map (·.2)
  let fits (key name : String) : Bool := (texts key).any fun t =>
    fitsName (t.length + name.length + 1) t.toList name.toList
  match fuel with
  | 0 => []
  | fuel + 1 =>
    match files.locate true folder path with
    | .error _ => []
    | .ok place =>
      (files.entries place).flatMap fun name =>
        let inner := if path = "" || path = "." && !p.operands.contains "." then name
          else Path.join path name
        match files.lookup (p.has "R") folder inner with
        | .ok (_, .folder) =>
          if fits "exclude-dir" name then [] else filesBelow files folder fuel p inner
        | .ok (_, .file _) =>
          if fits "exclude" name || (p.has "include" && !fits "include" name) then []
          else [inner]
        | _ => []

end Search

/-- The search with a notation for patterns unless the options say another. -/
def grepWith (usual : String) : Utility := fun c => do
  let p ← match Search.options.parse {} false c.args with
    | .ok p => pure p
    | .error e => do
      c.warn e
      Program.tell 2 Search.usage
      Program.exit 2
  let values (key : String) : List String := (p.options.filter (·.1 == key)).map (·.2)
  let kind := (p.last? ["E", "F", "G", "P"]).getD usual
  let mut texts := values "e"
  for name in values "f" do
    match ← Call.slurp name with
    | .ok text =>
      let list := if text.endsWith "\n" then String.ofList text.toList.dropLast else text
      if !text.isEmpty then texts := texts ++ [list]
    | .error e => c.fail (nameText name ++ ": " ++ e.reason) 2
  let given := p.has "e" || p.has "f"
  if !given && p.operands.isEmpty then do
    Program.tell 2 Search.usage
    Program.exit 2
  let names := if given then p.operands else p.operands.drop 1
  let mut patterns := []
  for text in if given then texts else p.operands.take 1 do
    for line in text.splitOn "\n" do
      if kind = "E" then
        for sign in Search.looseStarts true (line.length + 1) line.toList do
          c.warn s!"warning: {sign} at start of expression"
      if kind != "F" && line.startsWith "[:" && line.endsWith ":]" then
        c.fail "character class syntax is [[:space:]], not [:space:]" 2
      match Search.pattern p kind line with
      | .ok r => patterns := patterns ++ [r]
      | .error e => c.fail e.message 2
  let length (key : String) : Program (Option Nat) :=
    match (values key).getLast? with
    | none => pure none
    | some text =>
      match size? text with
      | some n => pure (some n)
      | none => c.fail (text ++ ": invalid context length argument") 2
  let digits := p.options.filterMap fun o => o.1.toList.head?.bind fun d =>
    if o.1.length = 1 && d.isDigit then some d else none
  let both ← length "C"
  let both := if digits.isEmpty then both else natural? (String.ofList digits)
  let after ← length "A"
  let before ← length "B"
  let most ← match p.value? "m" with
    | none => pure none
    | some text =>
      match size? text with
      | some n => pure (some n)
      | none => if text.startsWith "-" then pure none else c.fail "invalid max count" 2
  let recursive := p.has "r" || p.has "R" || p.value? "d" = some "recurse"
  let names := if names.isEmpty then [if recursive then "." else "-"] else names
  let shown : Search.Shown :=
    if p.has "q" then .nothing
    else match p.last? ["l", "L"] with
      | some "l" => .names
      | some _ => .otherNames
      | none => if p.has "c" then .count else if p.has "o" then .parts else .lines
  let ignoreCase := match p.last? ["i", "y", "no-i"] with
    | some "no-i" => false
    | some _ => true
    | none => false
  let s : Search.Style :=
    { patterns := patterns
      options := { ignoreCase := ignoreCase }
      inverted := p.has "v"
      shown := shown
      most := most
      before := (before.or both).getD 0
      after := (after.or both).getD 0
      hasGroups := !p.has "no-separator"
      numbers := p.has "n" && shown != .count
      offsets := p.has "b" && shown != .count
      aligned := false
      hasNames := match p.last? ["h", "H"] with
        | some "H" => true
        | some _ => false
        | none => recursive || 1 < names.length
      nameStop := if p.has "Z" then "\x00" else ":"
      isText := p.has "a" || p.has "z" || p.value? "binary" = some "text"
      skipsBinary := p.has "I" || p.value? "binary" = some "without-match"
      stop := if p.has "z" then '\x00' else '\n'
      colored := p.value? "color" = some "always"
      inputName := (p.value? "label").getD "(standard input)" }
  let mut found := false
  let mut fine := true
  for name in names do
    let files ← Program.files
    let folder ← Program.folder
    let isFolder := name != "-" && files.isFolder folder name
    let paths := if isFolder && recursive then Search.filesBelow files folder 100 p name
      else if isFolder && p.value? "d" = some "skip" then []
      else [name]
    for path in paths do
      if found && shown = .nothing then continue
      let opened ← if path = "-" then pure (.ok 0) else Program.openPath path { read := true }
      match opened with
      | .error e => do
        if !p.has "s" then c.warn (path ++ ": " ++ e.reason)
        fine := false
      | .ok fd => do
        match ← s.searchFile c (if path = "-" then s.inputName else path) fd with
        | .error e => do
          if !p.has "s" then c.warn (path ++ ": " ++ e.reason)
          fine := false
        | .ok hit => found := found || hit
        if fd != 0 then Program.close fd
  pure (if found && (fine || shown = .nothing) then 0 else if !fine then 2 else 1)

def grep : Utility := grepWith "G"

def egrep : Utility := fun c => grepWith "E" { c with name := "grep" }

def fgrep : Utility := fun c => grepWith "F" { c with name := "grep" }

end HostFleet.Utility
