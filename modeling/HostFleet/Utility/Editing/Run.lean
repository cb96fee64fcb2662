import HostFleet.Utility.Child
import HostFleet.Utility.Editing.Script
import HostFleet.Utility.Options
import HostFleet.Utility.Stream

/-!
# Editing

`sed` takes line after line of its files, runs its script on each and writes what has become of it.
-/

namespace HostFleet.Utility.Editing

open Machine

/-! ## Replacements -/

/-- How the case of letters is changed: from here on, and for the next letter only. -/
structure Casing where
  lasting : Option Char := none
  once : Option Char := none

namespace Casing

def letter (s : Casing) (c : Char) : Casing :=
  match c with
  | 'u' => { s with once := some c }
  | 'l' => { s with once := some c }
  | 'E' => {}
  | c => { lasting := some c }

def apply (s : Casing) (cs : List Char) : List Char × Casing :=
  let change (kind : Option Char) (c : Char) : Char :=
    match kind with
    | some 'U' => c.toUpper
    | some 'u' => c.toUpper
    | some 'L' => c.toLower
    | some 'l' => c.toLower
    | _ => c
  match cs with
  | [] => ([], s)
  | c :: rest =>
    (change (s.once.or s.lasting) c :: rest.map (change s.lasting), { s with once := none })

end Casing

/-- What takes the place of a match. -/
def Substitution.image (s : Substitution) (text : Array Char) (m : Regex.Match) : List Char :=
  (s.pieces.foldl (fun ((done, casing) : List (List Char) × Casing) piece =>
    match piece with
    | .case c => (done, casing.letter c)
    | .text t =>
      let (cs, casing) := casing.apply t.toList
      (cs :: done, casing)
    | .group n =>
      let (cs, casing) := casing.apply ((m.group? text n).getD [])
      (cs :: done, casing)) ([], {})).1.reverse.flatten

/-- The text with the matches replaced that are to be, unless there are none. -/
def Substitution.apply? (s : Substitution) (r : Regex) (o : Regex.Options) (line : String) :
    Option String :=
  let text := line.toList.toArray
  let found := if s.number = 1 && !s.isGlobal then (r.search? o text 0).toList
    else r.allMatches o text (text.size + 1) 0 none
  let chosen := if s.isGlobal then found.drop (s.number - 1)
    else (found.drop (s.number - 1)).take 1
  if chosen.isEmpty then none
  else
    let (pieces, last) := chosen.foldl (fun ((pieces, last) : List (List Char) × Nat) m =>
      (s.image text m :: (text.extract last m.start).toList :: pieces, m.stop)) ([], 0)
    some (String.ofList (((text.extract last text.size).toList :: pieces).reverse.flatten))

/-! ## Showing lines -/

/-- A character in a way that can be read without doubt. -/
def unambiguous (c : Char) : List Char :=
  match c with
  | '\x5c' => ['\x5c', '\x5c']
  | '\x07' => ['\x5c', 'a']
  | '\x08' => ['\x5c', 'b']
  | '\x0c' => ['\x5c', 'f']
  | '\n' => ['\x5c', 'n']
  | '\r' => ['\x5c', 'r']
  | '\t' => ['\x5c', 't']
  | '\x0b' => ['\x5c', 'v']
  | c =>
    let n := c.toNat
    if 32 ≤ n && n < 127 then [c]
    else '\x5c' :: [n / 64, n / 8 % 8, n % 8].map fun d => Char.ofNat (48 + d)

/-- A line in lines of a certain width, or in one line if the width is nothing. -/
def listed (width : Nat) (line : String) : String :=
  let room := width - 1
  let (cs, _) := line.toList.foldl (fun ((done, used) : List Char × Nat) c =>
    let cs := unambiguous c
    if width != 0 && room < used + cs.length then
      (cs.reverse ++ '\n' :: '\x5c' :: done, cs.length)
    else (cs.reverse ++ done, used + cs.length)) ([], 0)
  String.ofList cs.reverse ++ "$\n"

/-! ## The editor -/

/-- How a script is run. -/
structure Editor where
  script : Script
  isQuiet : Bool := false
  /-- Whether each file is a text of its own. -/
  isSeparate : Bool := false
  /-- Whether files are written back, and how the name of the file as it was is made. -/
  inPlace : Option String := none
  stop : Char := '\n'
  width : Nat := 70
  isUnbuffered : Bool := false
  isStrict : Bool := false

/-- Where output goes. -/
structure Outlet where
  fd : Nat
  /-- Whether the last line written there is not ended. -/
  isOpen : Bool := false

/-- What is written behind a line when it is done with. -/
inductive Addition where
  | text (s : String)
  | file (name : String)

/-- How far a range of lines has come. -/
inductive Span where
  | idle
  | active (until' : Option Nat)
  | passed
  deriving Inhabited

structure State where
  line : Line := { text := "" }
  hold : Line := { text := "" }
  number : Nat := 0
  hasReplaced : Bool := false
  additions : List Addition := []
  /-- The files that have not been opened, and the one that is. -/
  names : List String
  current : Option (String × Nat) := none
  ready : List Line := []
  rest : String := ""
  lastPattern : Option (Regex × Pattern) := none
  spans : Array Span
  /-- The files that the script writes. -/
  outlets : List (String × Outlet)
  /-- What is left of the files that are read line by line. -/
  readers : List (String × List Line) := []
  held : Held := {}
  /-- Whether the last line of the main output is not ended. -/
  isOpen : Bool := false
  /-- What is to become of the file that is being edited, last piece first. -/
  edited : List String := []
  code : Nat := 0

/-- The output of a command, for which all that was written has to be out. -/
def State.outputOf (s : State) (c : Call) (command : String) : Program (String × State) := do
  let held ← s.held.flush c 4
  let (text, _) ← c.outputOf command
  pure (text, { s with held := held })

variable (e : Editor) (c : Call)

/-! ### Output -/

/-- Writes to the main output. -/
def Editor.put (s : State) (text : String) (isEnded : Bool) : Program State := do
  let text := (if s.isOpen then String.singleton e.stop else "") ++ text
  let s := { s with isOpen := !isEnded }
  if e.inPlace.isSome && s.current.isSome then pure { s with edited := text :: s.edited }
  else
    let held ← s.held.add c 4 text
    let held ← if e.isUnbuffered then held.flush c 4 else pure held
    pure { s with held := held }

def Editor.putLine (s : State) (line : Line) : Program State :=
  e.put c s (line.whole e.stop) line.isEnded

/-- Writes a line to a file of the script. -/
def Editor.writeLine (s : State) (name : String) (line : Line) : Program State := do
  match s.outlets.lookup name with
  | none => pure s
  | some o => do
    let text := (if o.isOpen then String.singleton e.stop else "") ++ line.whole e.stop
    let s ← if name = "/dev/stdout" then pure { s with held := ← s.held.add c 4 text }
      else do
        Program.tell o.fd text
        pure s
    pure { s with outlets := s.outlets.map fun (n, o) =>
      if n = name then (n, { o with isOpen := !line.isEnded }) else (n, o) }

/-- Writes what was to be written behind the line. -/
def Editor.dump (s : State) : Program State := do
  let s ← s.additions.reverse.foldlM (fun (s : State) a => do
    match a with
    | .text t => e.put c s t true
    | .file name =>
      match ← if name = "/dev/stdin" then Program.readAll 0 Program.plenty []
          else Program.readFile name with
      | .ok text => if text.isEmpty then pure s else e.put c s text true
      | .error _ => pure s) s
  pure { s with additions := [] }

/-! ### Input -/

/-- Ends the file that is being edited. -/
def Editor.closeFile (s : State) : Program State := do
  match s.current with
  | none => pure s
  | some (name, fd) => do
    if fd != 0 then Program.close fd
    match e.inPlace with
    | none => pure { s with current := none, rest := "" }
    | some suffix => do
      if !suffix.isEmpty then
        let base := String.ofList (Path.splitLast name.toList).2
        let saved := if suffix.contains '*' then suffix.replace "*" base else base ++ suffix
        let saved := if saved.contains '/' then saved
          else String.ofList (name.toList.take (name.length - base.length)) ++ saved
        match ← Program.readFile name with
        | .ok text => do
          match ← Program.openPath saved { write := true, create := true, truncate := true } with
          | .ok fd => do
            Program.tell fd text
            Program.close fd
          | .error _ => pure ()
        | .error _ => pure ()
      match ← Program.openPath name { write := true, truncate := true } with
      | .ok fd => do
        Program.tell fd (String.join s.edited.reverse)
        Program.close fd
      | .error _ => pure ()
      pure { s with current := none, rest := "", edited := [], isOpen := false }

/-- Opens the next file. -/
def Editor.openFile (s : State) (name : String) (names : List String) : Program State := do
  let s := { s with names := names }
  let opened ← if name = "-" && e.inPlace.isNone then pure (.ok 0)
    else Program.openPath name { read := true }
  match opened with
  | .error err => do
    c.warn ("can't read " ++ name ++ ": " ++ err.reason)
    pure { s with code := 2 }
  | .ok fd => do
    let isFile ← Program.look fun pid k => match k.stream? pid fd with
      | some (.file ..) => true
      | _ => false
    if e.inPlace.isSome && !isFile then
      c.warn ("couldn't edit " ++ name ++ ": not a regular file")
      Program.close fd
      pure { s with code := 4 }
    else
      let s := { s with current := some (name, fd) }
      if e.isSeparate then
        pure { s with
          number := 0
          spans := e.script.commands.map fun cmd =>
            if cmd.selector.startsActive then .active none else .idle }
      else pure s

/-- Tries to have a line of the open file at hand. -/
def Editor.fill (fuel : Nat) (s : State) : Program State :=
  match fuel with
  | 0 => pure s
  | fuel + 1 =>
    match s.ready, s.current with
    | _ :: _, _ => pure s
    | [], none => pure s
    | [], some (name, fd) => do
      match ← if e.isUnbuffered then Program.readLine fd else Program.read fd with
      | .error err => do
        let what := if err = .isDirectory && e.inPlace.isNone then "couldn't read "
          else "read error on "
        c.warn (what ++ name ++ ": " ++ err.reason)
        let s := { s with code := 4 }
        pure s
      | .ok "" =>
        if s.rest.isEmpty then pure s
        else pure { s with ready := [⟨s.rest, false⟩], rest := "" }
      | .ok text =>
        let (lines, rest) := takeLines e.stop (s.rest ++ text)
        Editor.fill fuel { s with ready := lines, rest := rest }

/-- Whether there is no line behind this one. -/
def Editor.isLast (fuel : Nat) (s : State) : Program (Bool × State) :=
  match fuel with
  | 0 => pure (true, s)
  | fuel + 1 => do
    let s ← e.fill c Program.plenty s
    if !s.ready.isEmpty then pure (false, s)
    else if e.isSeparate && s.current.isSome then pure (true, s)
    else
      let s ← e.closeFile s
      match s.names with
      | [] => pure (true, s)
      | name :: names => do Editor.isLast fuel (← e.openFile c s name names)

/-- Takes the next line. Tells whether there was one. -/
def Editor.takeLine (fuel : Nat) (s : State) : Program (Option Line × State) :=
  match fuel with
  | 0 => pure (none, s)
  | fuel + 1 => do
    let s ← e.fill c Program.plenty s
    match s.ready with
    | line :: ready =>
      pure (some line, { s with ready := ready, number := s.number + 1, hasReplaced := false })
    | [] => do
      let s ← e.closeFile s
      match s.names with
      | [] => pure (none, s)
      | name :: names => do Editor.takeLine fuel (← e.openFile c s name names)

/-- Lets others read what was read too far. -/
def Editor.giveBack (s : State) : Program Unit := do
  match s.current with
  | some (_, 0) =>
    let count := (s.ready.map fun l => (l.whole e.stop).length).foldl (· + ·) s.rest.length
    Program.change fun pid k => k.giveBack pid 0 count
  | _ => pure ()

/-- Writes all that was put aside. -/
def Editor.finish (s : State) : Program State := do
  let s ← e.closeFile s
  pure { s with held := ← s.held.flush c 4 }

/-! ### Selecting -/

/-- Whether an expression has a match in the line. -/
def Editor.hasMatch (s : State) (p : Pattern) : Program (Bool × State) := do
  match p.regex, s.lastPattern with
  | some r, _ => pure (r.isMatch p.options s.line.text, { s with lastPattern := some (r, p) })
  | none, some (r, p) => pure (r.isMatch p.options s.line.text, s)
  | none, none => do
    discard (e.finish c s)
    c.fail "-e expression #1, char 0: no previous regular expression" 1

def Editor.isAt (s : State) (a : Address) : Program (Bool × State) :=
  match a with
  | .line n => pure (s.number = n, s)
  | .step first step =>
    pure (if step = 0 then s.number = first
      else first ≤ s.number && (s.number - first) % step = 0, s)
  | .last => e.isLast c Program.plenty s
  | .matching p => e.hasMatch c s p

/-- Whether a command is for the line. `place` tells where it stands. -/
def Editor.selects (place : Nat) (sel : Selector) (s : State) : Program (Bool × State) := do
  let span := (s.spans[place]?).getD .idle
  let mark (span : Span) (s : State) : State := { s with spans := s.spans.setIfInBounds place span }
  let (isFor, s) ← match sel.first, sel.limit with
    | none, _ => pure (true, s)
    | some first, none => e.isAt c s first
    | some first, some limit =>
      match span with
      | .active (some n) =>
        pure (s.number ≤ n, if n ≤ s.number then mark .passed s else s)
      | .active none => do
        let (isEnd, s) ← match limit with
          | .last => e.isLast c Program.plenty s
          | .matching p => e.hasMatch c s p
          | _ => pure (true, s)
        pure (true, if isEnd then mark .passed s else s)
      | span => do
        let (begins, s) ← match first, span with
          | .line _, .passed => pure (false, s)
          | .line n, _ => pure (n ≤ s.number, s)
          | first, _ => e.isAt c s first
        if !begins then pure (false, s)
        else match limit with
          | .line n =>
            if n ≤ s.number then
              let isFirst := match first with
                | .line m => s.number = m
                | _ => true
              pure (s.number ≤ n || isFirst, mark .passed s)
            else pure (true, mark (.active (some n)) s)
          | .count n =>
            pure (true, if n = 0 then mark .passed s else mark (.active (some (s.number + n))) s)
          | .multiple n =>
            pure (true, if n = 0 then mark .passed s
              else mark (.active (some (s.number + n - s.number % n))) s)
          | _ => pure (true, mark (.active none) s)
  pure (isFor != sel.isNegated, s)

/-! ### Acting -/

/-- How a script goes on. -/
inductive Turn where
  | next
  | jump (place : Nat)
  /-- The line is done with, and written if lines are. -/
  | done
  /-- The line is given up. -/
  | drop
  /-- The script begins again without a new line. -/
  | again
  | quit (code : Nat)

/-- The line up to the first end of a line in it, and what follows. -/
def Editor.firstPart (text : String) : String × Option String :=
  match cutAt (· = e.stop) text with
  | (text, "") => (text, none)
  | (first, rest) => (first, some (dropFront 1 rest))

/-- Takes another line, if there is one. -/
def Editor.advance (s : State) (join : Bool) : Program (Turn × State) := do
  let (isLast, s) ← e.isLast c Program.plenty s
  if isLast then
    pure (if e.isStrict && join then .drop else .done, s)
  else
    let s ← if join || e.isQuiet then pure s else e.putLine c s s.line
    let s ← e.dump c s
    let old := s.line
    let replaced := s.hasReplaced
    let (line, s) ← e.takeLine c Program.plenty s
    let line := line.getD { text := "" }
    let line := if join then { line with text := old.text.push e.stop ++ line.text } else line
    pure (.next, { s with line := line, hasReplaced := replaced })

/-- The text without the end of its last line. -/
def Editor.withoutEnd (text : String) : String :=
  if text.endsWith (String.singleton e.stop) then String.ofList text.toList.dropLast else text

def Editor.substitute (s : State) (sub : Substitution) : Program State := do
  let (_, s) ← match sub.pattern.regex, s.lastPattern with
    | some r, _ => pure ((), { s with lastPattern := some (r, sub.pattern) })
    | none, some _ => pure ((), s)
    | none, none => do
      let (_, s) ← e.hasMatch c s sub.pattern
      pure ((), s)
  match s.lastPattern with
  | none => pure s
  | some (r, p) =>
    if p.groups < sub.highest then
      c.fail ("-e expression #1, char 0: invalid reference \x5c" ++ toString sub.highest
        ++ " on \x60s' command's RHS") 1
    else match sub.apply? r p.options s.line.text with
    | none => pure s
    | some text => do
      let s := { s with line := { s.line with text := text }, hasReplaced := true }
      let s ← if !sub.evaluates then pure s else do
        let (text, s) ← s.outputOf c text
        pure { s with line := { s.line with text := e.withoutEnd text } }
      let s ← if sub.prints then e.putLine c s s.line else pure s
      match sub.file with
      | some name => e.writeLine c s name s.line
      | none => pure s

/-- Takes a line from a file that is read line by line. -/
def Editor.readLine (s : State) (name : String) : Program State := do
  let lines ← match s.readers.lookup name with
    | some lines => pure lines
    | none => do
      match ← if name = "/dev/stdin" then Program.readAll 0 Program.plenty []
          else Program.readFile name with
      | .ok text => pure (Line.ofText e.stop text)
      | .error _ => pure []
  let readers := (name, lines.drop 1) :: s.readers.filter (·.1 != name)
  let s := { s with readers := readers }
  pure (match lines with
    | line :: _ => { s with additions := .text (line.whole e.stop) :: s.additions }
    | [] => s)

/-- Does what a command says. -/
def Editor.act (place : Nat) (cmd : Command) (s : State) : Program (Turn × State) := do
  let go (s : State) : Program (Turn × State) := pure (.next, s)
  let target := (e.script.targets[place]?).getD (place + 1)
  let text := s.line.text
  let withLine (text : String) : State := { s with line := { s.line with text := text } }
  match cmd.action with
  | .opening => go s
  | .closing => go s
  | .label _ => go s
  | .nothing => go s
  | .append text => go { s with additions := .text text :: s.additions }
  | .insert text => do go (← e.put c s text true)
  | .change text =>
    let isInside := match (s.spans[place]?).getD .idle with
      | .active _ => !cmd.selector.isNegated
      | _ => false
    let s ← if isInside then pure s else e.put c s text true
    pure (.drop, s)
  | .delete => pure (.drop, s)
  | .deleteFirst =>
    match (e.firstPart text).2 with
    | none => pure (.drop, s)
    | some rest => pure (.again, withLine rest)
  | .execute command =>
    if command.isEmpty then do
      let (text, s) ← s.outputOf c text
      go { s with line := { s.line with text := e.withoutEnd text } }
    else do
      let (text, s) ← s.outputOf c command
      go (← if text.isEmpty then pure s else e.put c s text true)
  | .fileName => do
    go (← e.put c s (((s.current.map Prod.fst).getD "-") ++ "\n") true)
  | .get => go { s with line := s.hold }
  | .getAppend => go { s with line := { s.hold with text := text.push e.stop ++ s.hold.text } }
  | .hold => go { s with hold := s.line }
  | .holdAppend =>
    go { s with hold := { s.line with text := s.hold.text.push e.stop ++ text } }
  | .exchange => go { s with line := s.hold, hold := s.line }
  | .list width => do go (← e.put c s (listed (width.getD e.width) text) true)
  | .next => e.advance c s false
  | .nextAppend => e.advance c s true
  | .print => do go (← e.putLine c s s.line)
  | .printFirst => do go (← e.putLine c s { text := (e.firstPart text).1 })
  | .quit code => do
    let s ← if e.isQuiet then pure s else e.putLine c s s.line
    pure (.quit code, ← e.dump c s)
  | .quitSilently code => pure (.quit code, s)
  | .readFile name => go { s with additions := .file name :: s.additions }
  | .readLine name => do go (← e.readLine s name)
  | .substitute sub => do go (← e.substitute c s sub)
  | .branch kind _ =>
    match kind with
    | 't' =>
      if s.hasReplaced then pure (.jump target, { s with hasReplaced := false }) else go s
    | 'T' =>
      if s.hasReplaced then go { s with hasReplaced := false } else pure (.jump target, s)
    | _ => pure (.jump target, s)
  | .write name => do go (← e.writeLine c s name s.line)
  | .writeFirst name => do go (← e.writeLine c s name { text := (e.firstPart text).1 })
  | .number => do go (← e.put c s (toString s.number ++ "\n") true)
  | .transliterate pairs =>
    go (withLine (String.ofList (text.toList.map fun c => (pairs.lookup c).getD c)))
  | .clear => go (withLine "")

/-- Runs the script from a place on, or on the next line. -/
def Editor.run (fuel : Nat) (place : Option Nat) (s : State) : Program State :=
  match fuel with
  | 0 => pure s
  | fuel + 1 =>
    match place with
    | none => do
      match ← e.takeLine c Program.plenty s with
      | (none, s) => e.finish c s
      | (some line, s) => Editor.run fuel (some 0) { s with line := line }
    | some place =>
      match e.script.commands[place]? with
      | none => do
        let s ← if e.isQuiet then pure s else e.putLine c s s.line
        Editor.run fuel none (← e.dump c s)
      | some cmd => do
        let (isFor, s) ← e.selects c place cmd.selector s
        if !isFor then
          let behind := match cmd.action with
            | .opening => (e.script.targets[place]?).getD (place + 1)
            | _ => place + 1
          Editor.run fuel (some behind) s
        else
          match ← e.act c place cmd s with
          | (.next, s) => Editor.run fuel (some (place + 1)) s
          | (.jump place, s) => Editor.run fuel (some place) s
          | (.done, s) => Editor.run fuel (some e.script.commands.size) s
          | (.drop, s) => do Editor.run fuel none (← e.dump c s)
          | (.again, s) => Editor.run fuel (some 0) s
          | (.quit code, s) => do
            e.giveBack s
            e.finish c { s with code := code }

end HostFleet.Utility.Editing
