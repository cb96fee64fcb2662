import HostFleet.Utility.Repetition

/-!
# Columns

`cut` takes parts out of lines, `paste` puts lines together, `fold` breaks them, and `expand` and
`unexpand` turn tabs into blanks and back.
-/

namespace HostFleet.Utility

open Machine

/-! ## Parts of lines -/

namespace Cutting

def options : Options where
  short := "b:c:d:f:nsz"
  long := [("bytes", .required, "b"), ("characters", .required, "c"), ("fields", .required, "f"),
    ("delimiter", .required, "d"), ("only-delimited", .none, "s"),
    ("output-delimiter", .required, "output"), ("complement", .none, "complement"),
    ("zero-terminated", .none, "z")]

/-- Numbers from one to another; nothing as the end stands for all that follow. -/
structure Range where
  first : Nat
  last : Option Nat
  deriving DecidableEq, Inhabited

def Range.holds (r : Range) (n : Nat) : Bool := r.first ≤ n && r.last.all (n ≤ ·)

/-- One item of a list of ranges. -/
def range? (fields : Bool) (item : String) : Except String Range :=
  let cs := item.toList
  let zero : String := if fields then "fields are numbered from 1"
    else "byte/character positions are numbered from 1"
  let number (ds : List Char) : Except String Nat :=
    if ds.all Char.isDigit then
      let n := Version.value ds
      if Nat.pow 2 64 - 1 ≤ n then
        .error ((if fields then "field number " else "byte/character offset ")
          ++ inQuotes (String.ofList ds) ++ " is too large")
      else .ok n
    else .error ((if fields then "invalid field value " else "invalid byte/character position ")
      ++ inQuotes (String.ofList (ds.dropWhile Char.isDigit)))
  let first := cs.takeWhile (· != '-')
  match cs.drop first.length with
  | [] => do
    let n ← number first
    if n = 0 then .error zero else .ok ⟨n, some n⟩
  | _ :: last =>
    if last.contains '-' then
      .error (if fields then "invalid field range" else "invalid byte or character range")
    else if first.isEmpty && last.isEmpty then .error "invalid range with no endpoint: -"
    else do
      let lo ← if first.isEmpty then .ok 1 else number first
      if lo = 0 then .error zero
      if last.isEmpty then .ok ⟨lo, none⟩
      else
        let hi ← number last
        if hi < lo then .error "invalid decreasing range" else .ok ⟨lo, some hi⟩

/-- The ranges of a list, in order, with those that overlap made one. -/
def ranges? (fields : Bool) (list : String) : Except String (List Range) := do
  let list := list.map fun c => if c = ' ' || c = '\t' then ',' else c
  let found ← (list.splitOn ",").mapM (range? fields)
  let sorted := found.mergeSort fun a b => a.first ≤ b.first
  .ok (sorted.foldr (fun r done => match done with
    | [] => [r]
    | next :: rest =>
      match r.last with
      | none => [r]
      | some hi =>
        if next.first ≤ hi then
          ⟨r.first, match next.last with
            | some other => some (max hi other)
            | none => none⟩ :: rest
        else r :: next :: rest) [])

/-- The numbers that none of the ranges holds. -/
def complement (next : Nat) : List Range → List Range
  | [] => [⟨next, none⟩]
  | r :: rest =>
    let gap : List Range := if next < r.first then [⟨next, some (r.first - 1)⟩] else []
    match r.last with
    | none => gap
    | some hi => gap ++ complement (hi + 1) rest

/-- The characters of a line in the ranges, range by range. -/
def chars (ranges : List Range) (cs : List Char) : List (List Char) :=
  ranges.filterMap fun r =>
    let rest := cs.drop (r.first - 1)
    let part := match r.last with
      | some hi => rest.take (hi + 1 - r.first)
      | none => rest
    if part.isEmpty then none else some part

end Cutting

def cut : Utility := fun c => do
  let p ← Cutting.options.of c 1
  let lists := p.options.filter fun o => ["b", "c", "f"].contains o.1
  let (kind, list) ← match lists with
    | [] => c.misuse "you must specify a list of bytes, characters, or fields" 1
    | [l] => pure l
    | _ => c.misuse "only one list may be specified" 1
  let fields := kind = "f"
  match p.value? "d" with
  | some d =>
    if 1 < d.length then c.misuse "the delimiter must be a single character" 1
    if !fields then
      c.misuse "an input delimiter may be specified only when operating on fields" 1
  | none => pure ()
  if p.has "s" && !fields then
    c.misuse "suppressing non-delimited lines makes sense\n\tonly when operating on fields" 1
  let ranges ← match Cutting.ranges? fields list with
    | .ok ranges => pure ranges
    | .error e => c.misuse e 1
  let ranges := if p.has "complement" then Cutting.complement 1 ranges else ranges
  let stop := if p.has "z" then '\x00' else '\n'
  let delimiter := match p.value? "d" with
    | some d => if d.isEmpty then "\x00" else d
    | none => "\t"
  let between := (p.value? "output").getD (if fields then delimiter else "")
  let one (line : Line) : String :=
    if !fields then
      (between.intercalate ((Cutting.chars ranges line.text.toList).map String.ofList)).push stop
    else
      let parts := line.text.splitOn delimiter
      if parts.length ≤ 1 then if p.has "s" then "" else line.text.push stop
      else
        let chosen := (parts.zipIdx 1).filterMap fun (part, n) =>
          if ranges.any (·.holds n) then some part else none
        (between.intercalate chosen).push stop
  let (_, fine) ← c.eachFile p.operands (fun name _ => nameText name)
    (fun () _ text => c.put (String.join ((Line.ofText stop text).map one))) ()
  pure (if fine then 0 else 1)

/-! ## Lines put together -/

namespace Pasting

/-- The signs between lines, of which an empty one is none at all. -/
def delimiters? : List Char → Option (List String)
  | [] => some []
  | ['\x5c'] => none
  | '\x5c' :: c :: rest => do
    let text := match c with
      | 'n' => "\n"
      | 't' => "\t"
      | 'b' => "\x08"
      | 'r' => "\r"
      | 'f' => "\x0c"
      | 'v' => "\x0b"
      | '0' => ""
      | c => String.singleton c
    return text :: (← delimiters? rest)
  | c :: rest => do return String.singleton c :: (← delimiters? rest)

/-- Texts with the signs between them in turn. -/
def alternate (signs : Array String) (n : Nat) : List String → String
  | [] => ""
  | [s] => s
  | s :: rest => s ++ (signs[n % signs.size]?.getD "") ++ alternate signs (n + 1) rest

/-- The rows of files of different length. -/
def rows (fuel : Nat) (files : List (List String)) : List (List String) :=
  match fuel with
  | 0 => []
  | fuel + 1 =>
    if files.all (·.isEmpty) then []
    else files.map (·.headD "") :: rows fuel (files.map (·.drop 1))

/-- Deals the lines of the standard input out to the places that name it. -/
def deal (count : Nat) (lines : List String) (place : Nat) : List String :=
  (lines.zipIdx.filter fun l => l.2 % count = place).map Prod.fst

end Pasting

def paste : Utility := fun c => do
  let options : Options := { short := "d:sz", long := [("delimiters", .required, "d"),
    ("serial", .none, "s"), ("zero-terminated", .none, "z")] }
  let p ← options.of c 1
  let stop := if p.has "z" then '\x00' else '\n'
  let list := (p.value? "d").getD "\t"
  let signs ← match Pasting.delimiters? list.toList with
    | some [] => pure #[""]
    | some signs => pure signs.toArray
    | none => c.fail ("delimiter list ends with an unescaped backslash: " ++ nameText list) 1
  let names := if p.operands.isEmpty then ["-"] else p.operands
  let read (name : String) : Program (Option (List String)) := do
    match ← Call.slurp name with
    | .ok text => pure (some ((Line.ofText stop text).map (·.text)))
    | .error e => do
      c.warn (nameText name ++ ": " ++ e.reason)
      pure none
  if p.has "s" then
    let mut fine := true
    for name in names do
      match ← read name with
      | some lines => c.put ((Pasting.alternate signs 0 lines).push stop)
      | none => fine := false
    pure (if fine then 0 else 1)
  else
    let mut files := []
    let mut input : Option (List String) := none
    let mut fine := true
    let dashes := (names.filter (· = "-")).length
    for name in names do
      if name = "-" then
        if input.isNone then input ← read name
        let place := (files.filter fun f => f.1).length
        files := files ++ [(true, Pasting.deal dashes (input.getD []) place)]
      else
        match ← read name with
        | some lines => files := files ++ [(false, lines)]
        | none =>
          if (← Program.files).holds (← Program.folder) name then
            fine := false
            files := files ++ [(false, [])]
          else Program.exit 1
    let size := (files.map (·.2.length)).foldl max 0
    let rows := Pasting.rows (size + 1) (files.map Prod.snd)
    c.put (String.join (rows.map fun row => (Pasting.alternate signs 0 row).push stop))
    pure (if fine then 0 else 1)

/-! ## Broken lines -/

namespace Folding

/-- The column after a character. -/
def advance (bytes : Bool) (column : Nat) (c : Char) : Nat :=
  if bytes then column + 1
  else if c = '\x08' then column - 1
  else if c = '\r' then 0
  else if c = '\t' then column + 8 - column % 8
  else column + 1

/-- Breaks lines after so many columns, and behind the last blank if that is wanted. What is
pending stands last first. -/
def fold (bytes atBlanks : Bool) (width : Nat) (fuel : Nat) (pending : List Char) (column : Nat)
    (done : List (List Char)) (cs : List Char) : List (List Char) :=
  match fuel, cs with
  | 0, _ => (pending.reverse :: done).reverse
  | _, [] => (pending.reverse :: done).reverse
  | fuel + 1, c :: rest =>
    if c = '\n' then
      fold bytes atBlanks width fuel [] 0 (('\n' :: pending).reverse :: done) rest
    else
      let next := advance bytes column c
      if next ≤ width || pending.isEmpty then
        fold bytes atBlanks width fuel (c :: pending) next done rest
      else
        let tail := if atBlanks then pending.takeWhile fun c => !(c = ' ' || c = '\t') else []
        let kept := pending.drop tail.length
        if atBlanks && !kept.isEmpty then
          let column := tail.reverse.foldl (advance bytes) 0
          fold bytes atBlanks width fuel tail column (('\n' :: kept).reverse :: done) (c :: rest)
        else
          fold bytes atBlanks width fuel [] 0 (('\n' :: pending).reverse :: done) (c :: rest)

end Folding

def fold : Utility := fun c => do
  let args := c.args.map fun a => match a.toList with
    | '-' :: d :: ds => if (d :: ds).all Char.isDigit then "-w" ++ String.ofList (d :: ds) else a
    | _ => a
  let options : Options := { short := "bcsw:", long := [("bytes", .none, "b"),
    ("spaces", .none, "s"), ("width", .required, "w")] }
  let p ← options.of { c with args := args } 1
  let width ← match p.value? "w" with
    | none => pure 80
    | some value =>
      match natural? value with
      | some 0 => c.fail ("invalid number of columns: " ++ inQuotes value
          ++ ": Numerical result out of range") 1
      | some n => pure n
      | none => c.fail ("invalid number of columns: " ++ inQuotes value) 1
  let (_, fine) ← c.eachFile p.operands (fun name _ => nameText name)
    (fun () _ text => c.put (String.ofList (Folding.fold (p.has "b") (p.has "s") width
      (3 * text.length + 3) [] 0 [] text.toList).flatten)) ()
  pure (if fine then 0 else 1)

/-! ## Tabs -/

namespace Tabs

/-- Where tabs lead to: the stops in order, and the distance of those that follow if there are
more. -/
structure Stops where
  stops : List Nat := []
  every : Option Nat := some 8

/-- The column that a tab leads to, if there is a stop behind the present one. -/
def Stops.next? (s : Stops) (column : Nat) : Option Nat :=
  match s.stops.find? (column < ·) with
  | some n => some n
  | none => s.every.map fun n => column + n - column % n

/-- The stops that a list names. -/
def stops? (list : String) : Except String Stops := do
  let words := ((list.map fun c => if c = ' ' || c = '\t' then ',' else c).splitOn ",").filter
    (· != "")
  let numbers ← words.mapM fun w =>
    match natural? w with
    | some 0 => .error "tab size cannot be 0"
    | some n => .ok n
    | none => .error ("tab size contains invalid character(s): "
        ++ inQuotes (String.ofList (w.toList.dropWhile Char.isDigit)))
  match numbers with
  | [] => .ok {}
  | [n] => .ok { every := some n }
  | ns =>
    if (ns.zip (ns.drop 1)).all fun (a, b) => a < b then .ok { stops := ns, every := none }
    else .error "tab sizes must be ascending"

/-- Blanks in place of tabs. With `onlyFirst` tabs behind other characters stay. -/
def expand (s : Stops) (onlyFirst : Bool) (column : Nat) (first : Bool) : List Char → List Char
  | [] => []
  | '\n' :: rest => '\n' :: expand s onlyFirst 0 true rest
  | '\t' :: rest =>
    if onlyFirst && !first then '\t' :: expand s onlyFirst column first rest
    else
      let next := (s.next? column).getD (column + 1)
      List.replicate (next - column) ' ' ++ expand s onlyFirst next first rest
  | '\x08' :: rest => '\x08' :: expand s onlyFirst (column - 1) false rest
  | c :: rest => c :: expand s onlyFirst (column + 1) (first && c = ' ') rest

/-- Tabs in place of blanks that reach a stop. `start` is the column where the blanks begin, and
`pending` how far they reach. -/
def unexpand (s : Stops) (everywhere : Bool) (fuel : Nat) (start : Nat) (pending : Nat)
    (hadTab first : Bool) (done : List (List Char)) (cs : List Char) : List (List Char) :=
  let blanks (from' : Nat) : List Char := List.replicate (pending - from') ' '
  match fuel, cs with
  | 0, _ => (blanks start :: done).reverse
  | _, [] => (blanks start :: done).reverse
  | fuel + 1, c :: rest =>
    let active := everywhere || first
    if active && (c = ' ' || c = '\t') then
      let stop := s.next? pending
      let to' := if c = '\t' then stop.getD (pending + 1) else pending + 1
      if stop = some to' && (c = '\t' || 1 < to' - start || hadTab) then
        unexpand s everywhere fuel to' to' true first (['\t'] :: done) rest
      else unexpand s everywhere fuel start to' (hadTab && start = pending) first done rest
    else
      let done := blanks start :: done
      if c = '\n' then unexpand s everywhere fuel 0 0 false true (['\n'] :: done) rest
      else
        let column := if c = '\x08' then pending - 1 else pending + 1
        unexpand s everywhere fuel column column false (first && !active) ([c] :: done) rest

end Tabs

/-- Spells stops that are given as options by themselves with a letter. -/
def modernStops (args : List String) : List String :=
  args.map fun a => match a.toList with
    | '-' :: d :: ds => if d.isDigit then "-t" ++ String.ofList (d :: ds) else a
    | _ => a

/-- The stops that the options name. -/
def stopsOf (c : Call) (p : Parsed) : Program Tabs.Stops :=
  match Tabs.stops? (",".intercalate ((p.options.filter (·.1 == "t")).map (·.2))) with
  | .ok s => pure s
  | .error e => c.fail e 1

def expand : Utility := fun c => do
  let options : Options := { short := "it:", long := [("initial", .none, "i"),
    ("tabs", .required, "t")] }
  let p ← options.of { c with args := modernStops c.args } 1
  let stops ← stopsOf c p
  let (_, fine) ← c.eachFile p.operands (fun name _ => nameText name)
    (fun () _ text => c.put (String.ofList (Tabs.expand stops (p.has "i") 0 true text.toList))) ()
  pure (if fine then 0 else 1)

def unexpand : Utility := fun c => do
  let options : Options := { short := "at:", long := [("all", .none, "a"),
    ("first-only", .none, "first"), ("tabs", .required, "t")] }
  let p ← options.of { c with args := modernStops c.args } 1
  let stops ← stopsOf c p
  let everywhere := (p.has "a" || p.has "t") && !p.has "first"
  let (_, fine) ← c.eachFile p.operands (fun name _ => nameText name)
    (fun () _ text => c.put (String.ofList (Tabs.unexpand stops everywhere (text.length + 1)
      0 0 false true [] text.toList).flatten)) ()
  pure (if fine then 0 else 1)

end HostFleet.Utility
