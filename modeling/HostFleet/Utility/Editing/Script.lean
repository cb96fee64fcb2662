import HostFleet.Text.Regex
import HostFleet.Utility.Excerpt
import HostFleet.Utility.Tally

/-!
# Editing scripts

A script for `sed` is a row of commands, each with the lines it is for. Blocks and labels lead to
places in the row.
-/

namespace HostFleet.Utility.Editing

/-- An expression, or the one that was used last. -/
structure Pattern where
  regex : Option Regex
  options : Regex.Options := {}
  /-- How many groups the expression has. -/
  groups : Nat := 0
  deriving Repr, Inhabited

inductive Address where
  | line (n : Nat)
  | step (first step : Nat)
  | last
  | matching (p : Pattern)
  deriving Repr, Inhabited

/-- Where a range of lines ends. -/
inductive Limit where
  | line (n : Nat)
  | last
  | matching (p : Pattern)
  /-- So many lines later. -/
  | count (n : Nat)
  /-- At the next multiple of a number. -/
  | multiple (n : Nat)
  deriving Repr, Inhabited

/-- Which lines a command is for. -/
structure Selector where
  first : Option Address := none
  limit : Option Limit := none
  isNegated : Bool := false
  /-- Whether the range has begun before the first line. -/
  startsActive : Bool := false
  deriving Repr, Inhabited

/-- A piece of what takes the place of a match. -/
inductive Piece where
  | text (s : String)
  | group (n : Nat)
  /-- A change of case for what follows, by its letter. -/
  | case (letter : Char)
  deriving Repr

structure Substitution where
  pattern : Pattern
  pieces : List Piece
  /-- The highest group that the pieces name. -/
  highest : Nat := 0
  isGlobal : Bool := false
  prints : Bool := false
  /-- Which match is the first to be replaced. -/
  number : Nat := 1
  evaluates : Bool := false
  file : Option String := none
  deriving Repr

inductive Action where
  | opening
  | closing
  | label (name : String)
  | append (text : String)
  | insert (text : String)
  | change (text : String)
  | delete
  | deleteFirst
  | execute (command : String)
  | fileName
  | get
  | getAppend
  | hold
  | holdAppend
  | exchange
  | list (width : Option Nat)
  | next
  | nextAppend
  | print
  | printFirst
  | quit (code : Nat)
  | quitSilently (code : Nat)
  | readFile (name : String)
  | readLine (name : String)
  | substitute (s : Substitution)
  /-- A jump: always, after a replacement, or without one, by the letter. -/
  | branch (letter : Char) (target : String)
  | write (name : String)
  | writeFirst (name : String)
  | number
  | transliterate (pairs : List (Char × Char))
  | clear
  | nothing
  deriving Repr, Inhabited

structure Command where
  selector : Selector := {}
  action : Action := .nothing
  deriving Repr, Inhabited

/-- What is wrong with a script, and what was not read yet. -/
structure Fault where
  message : String
  rest : List Char

def failAt {α : Type} (message : String) (rest : List Char) : Except Fault α :=
  .error ⟨message, rest⟩

/-! ## Parts of commands -/

def isBlank (c : Char) : Bool := c = ' ' || c = '\t'

def skipBlanks (cs : List Char) : List Char := cs.dropWhile isBlank

def skipSpace (cs : List Char) : List Char := cs.dropWhile isSpace

/-- A number at the front. -/
def number? (cs : List Char) : Option (Nat × List Char) :=
  let ds := cs.takeWhile Char.isDigit
  if ds.isEmpty then none
  else some (ds.foldl (fun n c => n * 10 + (c.toNat - 48)) 0, cs.drop ds.length)

/-- How many characters of a bracket follow the sign that opens it. -/
def bracketLength? (fuel length : Nat) : List Char → Option Nat
  | [] => none
  | c :: rest =>
    match fuel with
    | 0 => none
    | fuel + 1 =>
      if c = ']' then some (length + 1)
      else if c = '\n' then none
      else match c, rest with
        | '[', mark :: rest =>
          if mark = ':' || mark = '.' || mark = '=' then
            match Regex.namedMember? mark rest with
            | some (name, rest) => bracketLength? fuel (length + name.length + 4) rest
            | none => none
          else bracketLength? fuel (length + 1) (mark :: rest)
        | _, rest => bracketLength? fuel (length + 1) rest

/-- A bracket at the front without the sign that opens it, and what follows. -/
def bracket? (cs : List Char) : Option (List Char × List Char) :=
  let front := match cs with
    | '^' :: ']' :: _ => 2
    | '^' :: _ => 1
    | ']' :: _ => 1
    | _ => 0
  (bracketLength? (cs.length + 1) front (cs.drop front)).map fun n => (cs.take n, cs.drop n)

/-- The text up to a sign that no backslash stands before, and what follows the sign. A backslash
before the sign is dropped. The text does not go beyond the line. -/
def delimited (isRegex : Bool) (sign : Char) (fuel : Nat) (done cs : List Char) :
    Option (List Char × List Char) :=
  match fuel, cs with
  | 0, _ => none
  | _, [] => none
  | fuel + 1, c :: rest =>
    if c = sign then some (done.reverse, rest)
    else if c = '\n' then none
    else if c = '\x5c' then
      match rest with
      | [] => none
      | d :: rest =>
        if d = sign && (isRegex || d != '&') then delimited isRegex sign fuel (d :: done) rest
        else if d = 'n' && isRegex then delimited isRegex sign fuel ('\n' :: done) rest
        else if d = '\n' then delimited isRegex sign fuel ('\n' :: done) rest
        else delimited isRegex sign fuel (d :: '\x5c' :: done) rest
    else if c = '[' && isRegex then
      match bracket? rest with
      | some (inside, rest) => delimited isRegex sign fuel (inside.reverse ++ '[' :: done) rest
      | none => none
    else delimited isRegex sign fuel (c :: done) rest

/-- What of a text is left where the search for a sign ends. -/
def afterDelimited : List Char → List Char
  | [] => []
  | '\x5c' :: _ :: rest => afterDelimited rest
  | c :: rest => if c = '\n' then c :: rest else afterDelimited rest

/-- The character that an escape with a number gives. -/
def numbered? (cs : List Char) : Option (Char × List Char) :=
  let read (base most : Nat) (rest : List Char) : Option (Char × List Char) :=
    let value? (c : Char) : Option Nat :=
      let n := if c.isDigit then c.toNat - 48
        else if 'a' ≤ c.toLower && c.toLower ≤ 'f' then c.toLower.toNat - 87 else 99
      if n < base then some n else none
    let ds := ((rest.take most).takeWhile fun c => (value? c).isSome).filterMap value?
    if ds.isEmpty then none
    else some (Char.ofNat (ds.foldl (fun n d => n * base + d) 0 % 256), rest.drop ds.length)
  match cs with
  | 'd' :: rest => read 10 3 rest
  | 'o' :: rest => read 8 3 rest
  | 'x' :: rest => read 16 2 rest
  | 'c' :: c :: rest => some (Char.ofNat (c.toUpper.toNat ^^^ 64), rest)
  | _ => none

/-- The character of an escape with a letter. -/
def lettered? : Char → Option Char
  | 'a' => some '\x07'
  | 'f' => some '\x0c'
  | 'n' => some '\n'
  | 'r' => some '\r'
  | 't' => some '\t'
  | 'v' => some '\x0b'
  | _ => none

/-- An expression with its escapes for single characters replaced. -/
def plainRegex (fuel : Nat) (cs : List Char) : List Char :=
  match fuel, cs with
  | 0, cs => cs
  | _, [] => []
  | fuel + 1, '\x5c' :: c :: rest =>
    match numbered? (c :: rest) with
    | some (d, rest) =>
      (if "$*.[\x5c]^".toList.contains d then ['\x5c', d] else [d]) ++ plainRegex fuel rest
    | none =>
      match lettered? c with
      | some d => d :: plainRegex fuel rest
      | none => '\x5c' :: c :: plainRegex fuel rest
  | fuel + 1, c :: rest => c :: plainRegex fuel rest

/-- The pattern that an expression describes. -/
def pattern (extended : Bool) (options : Regex.Options) (cs rest : List Char) :
    Except Fault (Pattern × Option Nat) :=
  if cs.isEmpty then
    if options.ignoreCase || options.multiline then
      failAt "cannot specify modifiers on empty regexp" rest
    else .ok ({ regex := none, options := options }, none)
  else
    let style : Regex.Style :=
      if extended then { Regex.strictExtended with hasPlainClosing := false } else Regex.strictBasic
    match Regex.read style (String.ofList (plainRegex (cs.length + 1) cs)) with
    | .ok (r, groups) => .ok (⟨some r, options, groups⟩, some groups)
    | .error e => failAt e.message rest

/-- The letters behind an expression that stands as an address. -/
def addressFlags (o : Regex.Options) : List Char → Regex.Options × List Char
  | 'I' :: rest => addressFlags { o with ignoreCase := true } rest
  | 'M' :: rest => addressFlags { o with multiline := true } rest
  | rest => (o, rest)

/-- An expression between signs as an address. -/
def regexAddress (extended : Bool) (sign : Char) (cs : List Char) :
    Except Fault (Pattern × List Char) :=
  match delimited true sign cs.length [] cs with
  | none => failAt "unterminated address regex" (afterDelimited cs)
  | some (text, rest) =>
    let (options, rest) := addressFlags {} rest
    match pattern extended options text rest with
    | .ok (p, _) => .ok (p, rest)
    | .error e => .error e

/-- The address at the front, if one stands there. -/
def address? (extended : Bool) (cs : List Char) : Except Fault (Option Address × List Char) :=
  match cs with
  | '/' :: rest => (regexAddress extended '/' rest).map fun (p, rest) => (some (.matching p), rest)
  | ['\x5c'] => failAt "unterminated address regex" []
  | '\x5c' :: sign :: rest =>
    (regexAddress extended sign rest).map fun (p, rest) => (some (.matching p), rest)
  | '$' :: rest => .ok (some .last, rest)
  | '+' :: rest => relative rest
  | '~' :: rest => relative rest
  | cs =>
    match number? cs with
    | none => .ok (none, cs)
    | some (n, rest) =>
      match skipBlanks rest with
      | '~' :: more =>
        match number? (skipBlanks more) with
        | some (0, rest) => .ok (some (.line n), rest)
        | some (step, rest) => .ok (some (.step n step), rest)
        | none => .ok (some (.line n), more)
      | _ => .ok (some (.line n), rest)
where
  /-- A number that counts from somewhere, of which only zero can stand first. -/
  relative (cs : List Char) : Except Fault (Option Address × List Char) :=
    match number? cs with
    | none => .ok (none, cs)
    | some (0, rest) => .ok (none, rest)
    | some (_, rest) => failAt "invalid usage of +N or ~N as first address" rest

def limit? (extended : Bool) (cs : List Char) : Except Fault (Option Limit × List Char) :=
  match cs with
  | '+' :: rest =>
    match number? rest with
    | some (n, rest) => .ok (some (.count n), rest)
    | none => .ok (some (.count 0), rest)
  | '~' :: rest =>
    match number? rest with
    | some (n, rest) => .ok (some (.multiple n), rest)
    | none => .ok (some (.multiple 0), rest)
  | cs =>
    match address? extended cs with
    | .error e => .error e
    | .ok (some (.line n), rest) => .ok (some (.line n), rest)
    | .ok (some (.step n _), rest) => .ok (some (.line n), rest)
    | .ok (some .last, rest) => .ok (some .last, rest)
    | .ok (some (.matching p), rest) => .ok (some (.matching p), rest)
    | .ok (none, rest) => .ok (none, rest)

/-- The lines that a command is for. -/
def selector (extended : Bool) (cs : List Char) : Except Fault (Selector × List Char) := do
  let (first, rest) ← address? extended cs
  match first with
  | none => negation {} rest
  | some first =>
    let isZero := match first with
      | .line 0 => true
      | _ => false
    match skipSpace rest with
    | ',' :: rest =>
      let (limit, rest) ← limit? extended (skipSpace rest)
      match limit with
      | none => failAt "unexpected \x60,'" (rest.drop 1)
      | some limit =>
        let isPattern := match limit with
          | .matching _ => true
          | _ => false
        if isZero && !isPattern then
          failAt "invalid usage of line address 0" (skipSpace rest |>.drop 1)
        else negation { first := some first, limit := some limit, startsActive := isZero } rest
    | rest =>
      if isZero then failAt "invalid usage of line address 0" (rest.drop 1)
      else negation { first := some first } rest
where
  negation (s : Selector) (cs : List Char) : Except Fault (Selector × List Char) :=
    match skipSpace cs with
    | '!' :: rest =>
      match skipSpace rest with
      | '!' :: rest => failAt "multiple \x60!'s" rest
      | rest => .ok ({ s with isNegated := true }, rest)
    | rest => .ok (s, rest)

/-- The end of a command. -/
def commandEnd (cs : List Char) : Except Fault (List Char) :=
  match skipBlanks cs with
  | [] => .ok []
  | '\n' :: rest => .ok rest
  | ';' :: rest => .ok rest
  | '\x7d' :: rest => .ok ('\x7d' :: rest)
  | '#' :: rest => .ok ('#' :: rest)
  | '\r' :: rest => failAt "extra characters after command" rest
  | _ :: rest => failAt "extra characters after command" rest

/-- The name of a file or label up to the end of the line. -/
def fileName (cs : List Char) : Except Fault (String × List Char) :=
  let name := (skipBlanks cs).takeWhile (· != '\n')
  if name.isEmpty then failAt "missing filename in r/R/w/W commands" (skipBlanks cs)
  else .ok (String.ofList name, (skipBlanks cs).drop name.length)

/-- A label up to a blank or a semicolon. -/
def labelText (cs : List Char) : String × List Char :=
  let cs := skipBlanks cs
  let name := cs.takeWhile fun c => !isSpace c && c != ';' && c != '\x7d'
  (String.ofList name, cs.drop name.length)

/-- The lines of a text up to one that does not end in a backslash. -/
def textLines (fuel : Nat) (cs : List Char) : List Char × List Char :=
  match fuel, cs with
  | 0, cs => ([], cs)
  | _, [] => ([], [])
  | _, '\n' :: rest => ([], rest)
  | fuel + 1, '\x5c' :: c :: rest =>
    let made (d : Char) (rest : List Char) : List Char × List Char :=
      let (text, rest) := textLines fuel rest
      (d :: text, rest)
    match numbered? (c :: rest) with
    | some (d, rest) => made d rest
    | none => made ((lettered? c).getD c) rest
  | _, ['\x5c'] => ([], [])
  | fuel + 1, c :: rest =>
    let (text, rest) := textLines fuel rest
    (c :: text, rest)

/-- The text of a command that brings text in. -/
def givenText (cs : List Char) : Except Fault (String × List Char) :=
  let size := cs.length + 1
  let whole (text : List Char) : String := String.ofList text ++ "\n"
  match skipBlanks cs with
  | [] => failAt "expected \x5c after \x60a', \x60c' or \x60i'" []
  | '\x5c' :: rest =>
    match skipBlanks rest with
    | [] => .ok ("", [])
    | '\n' :: rest =>
      let (text, rest) := textLines size rest
      .ok (whole text, rest)
    | _ =>
      let (text, rest) := textLines size rest
      .ok (whole text, rest)
  | '\n' :: rest => failAt "expected \x5c after \x60a', \x60c' or \x60i'" rest
  | rest =>
    let (text, rest) := textLines size rest
    .ok (whole text, rest)

/-- The pieces of what takes the place of a match. -/
def pieces (fuel : Nat) (current : List Char) (cs : List Char) : List Piece :=
  let text : List Piece :=
    if current.isEmpty then [] else [.text (String.ofList current.reverse)]
  match fuel, cs with
  | 0, _ => text
  | _, [] => text
  | fuel + 1, '&' :: rest => text ++ .group 0 :: pieces fuel [] rest
  | fuel + 1, '\x5c' :: c :: rest =>
    if c.isDigit then text ++ .group (c.toNat - 48) :: pieces fuel [] rest
    else if ['U', 'L', 'E', 'u', 'l'].contains c then text ++ .case c :: pieces fuel [] rest
    else match numbered? (c :: rest) with
      | some (d, rest) => pieces fuel (d :: current) rest
      | none => pieces fuel ((lettered? c).getD c :: current) rest
  | fuel + 1, c :: rest => pieces fuel (c :: current) rest

/-- The letters behind a substitution. -/
def flags (fuel : Nat) (s : Substitution) (o : Regex.Options) (given : List Char)
    (cs : List Char) : Except Fault ((Substitution × Regex.Options) × List Char) :=
  let twice (what : String) (rest : List Char) :
      Except Fault ((Substitution × Regex.Options) × List Char) :=
    failAt ("multiple " ++ what ++ " options to \x60s' command") rest
  match fuel, cs with
  | 0, cs => .ok ((s, o), cs)
  | _, [] => .ok ((s, o), [])
  | fuel + 1, c :: rest =>
    if c = 'g' then
      if given.contains c then twice "\x60g'" rest
      else flags fuel { s with isGlobal := true } o (c :: given) rest
    else if c = 'p' then
      if given.contains c then twice "\x60p'" rest
      else flags fuel { s with prints := true } o (c :: given) rest
    else if c = 'i' || c = 'I' then flags fuel s { o with ignoreCase := true } given rest
    else if c = 'm' || c = 'M' then flags fuel s { o with multiline := true } given rest
    else if c = 'e' then flags fuel { s with evaluates := true } o given rest
    else if c = 'w' then
      match fileName rest with
      | .ok (name, rest) => .ok (({ s with file := some name }, o), rest.drop 1)
      | .error e => .error e
    else if c.isDigit then
      match number? cs with
      | some (n, rest) =>
        if given.contains '1' then twice "number" rest
        else if n = 0 then failAt "number option to \x60s' command may not be zero" rest
        else flags fuel { s with number := n } o ('1' :: given) rest
      | none => .ok ((s, o), cs)
    else if c = '\x7d' || c = '#' then .ok ((s, o), cs)
    else if c = '\n' || c = ';' then .ok ((s, o), rest)
    else if isSpace c then flags fuel s o given rest
    else failAt "unknown option to \x60s'" rest

/-- A substitution behind its letter. -/
def substitution (extended : Bool) (cs : List Char) : Except Fault (Action × List Char) :=
  match cs with
  | [] => failAt "unterminated \x60s' command" []
  | sign :: rest =>
    if sign = '\n' then failAt "unterminated \x60s' command" rest
    else match delimited true sign rest.length [] rest with
    | none => failAt "unterminated \x60s' command" (afterDelimited rest)
    | some (regex, rest) =>
      match delimited false sign rest.length [] rest with
      | none => failAt "unterminated \x60s' command" (afterDelimited rest)
      | some (text, rest) => do
        let parts := pieces (text.length + 1) [] text
        let first : Substitution := { pattern := { regex := none }, pieces := parts }
        let ((s, options), after) ← flags (rest.length + 1) first {} [] rest
        let (p, groups) ← pattern extended options regex after
        let highest := parts.foldl (fun n piece => match piece with
          | .group m => max n m
          | _ => n) 0
        match groups with
        | some count =>
          if count < highest then
            let place := "\x5c" ++ toString highest
            failAt ("invalid reference " ++ place ++ " on \x60s' command's RHS") after
          else .ok (.substitute { s with pattern := p, highest := highest }, after)
        | none => .ok (.substitute { s with pattern := p, highest := highest }, after)

/-- The characters of a text in which escapes stand for some. -/
def transliterated (fuel : Nat) (cs : List Char) : List Char :=
  match fuel, cs with
  | 0, _ => []
  | _, [] => []
  | fuel + 1, '\x5c' :: c :: rest =>
    match numbered? (c :: rest) with
    | some (d, rest) => d :: transliterated fuel rest
    | none => (lettered? c).getD c :: transliterated fuel rest
  | fuel + 1, c :: rest => c :: transliterated fuel rest

def transliteration (cs : List Char) : Except Fault (Action × List Char) :=
  match cs with
  | [] => failAt "unterminated \x60y' command" []
  | sign :: rest =>
    match delimited false sign rest.length [] rest with
    | none => failAt "unterminated \x60y' command" (afterDelimited rest)
    | some (source, rest) =>
      match delimited false sign rest.length [] rest with
      | none => failAt "unterminated \x60y' command" (afterDelimited rest)
      | some (target, rest) =>
        let source := transliterated (source.length + 1) source
        let target := transliterated (target.length + 1) target
        if source.length != target.length then
          failAt "strings for \x60y' command are different lengths" rest
        else do
          let after ← commandEnd rest
          .ok (.transliterate (source.zip target), after)

/-! ## Commands -/

/-- A command behind the lines it is for. `blocks` counts the blocks that are open. -/
def action (extended : Bool) (blocks : Nat) (s : Selector) (cs : List Char) :
    Except Fault (Action × List Char) :=
  let plain (a : Action) (rest : List Char) : Except Fault (Action × List Char) := do
    .ok (a, ← commandEnd rest)
  let numbered (make : Option Nat → Action) (rest : List Char) :
      Except Fault (Action × List Char) :=
    match number? (skipBlanks rest) with
    | some (n, rest) => plain (make (some n)) rest
    | none => plain (make none) rest
  match cs with
  | [] => failAt "missing command" []
  | c :: rest =>
    match c with
    | '\x7b' => .ok (.opening, rest)
    | '\x7d' =>
      if blocks = 0 then failAt "unexpected \x60\x7d'" rest
      else if s.first.isSome then failAt "\x60\x7d' doesn't want any addresses" rest
      else plain .closing rest
    | ':' =>
      if s.first.isSome then failAt ": doesn't want any addresses" rest
      else
        let name := (skipBlanks rest).takeWhile fun c => !isSpace c && c != ';'
        let (name, rest) := (String.ofList (name.takeWhile (· != '\x7d')),
          (skipBlanks rest).drop (name.takeWhile (· != '\x7d')).length)
        if name.isEmpty then failAt "\x22:\x22 lacks a label" rest
        else .ok (.label name, rest)
    | 'a' => (givenText rest).map fun (t, rest) => (.append t, rest)
    | 'i' => (givenText rest).map fun (t, rest) => (.insert t, rest)
    | 'c' => (givenText rest).map fun (t, rest) => (.change t, rest)
    | 'd' => plain .delete rest
    | 'D' => plain .deleteFirst rest
    | 'e' =>
      let text := (skipBlanks rest).takeWhile (· != '\n')
      .ok (.execute (String.ofList text), (skipBlanks rest).drop (text.length + 1))
    | 'F' => plain .fileName rest
    | 'g' => plain .get rest
    | 'G' => plain .getAppend rest
    | 'h' => plain .hold rest
    | 'H' => plain .holdAppend rest
    | 'x' => plain .exchange rest
    | 'l' => numbered .list rest
    | 'n' => plain .next rest
    | 'N' => plain .nextAppend rest
    | 'p' => plain .print rest
    | 'P' => plain .printFirst rest
    | 'q' =>
      if s.limit.isSome then failAt "command only uses one address" rest
      else numbered (fun n => .quit (n.getD 0)) rest
    | 'Q' =>
      if s.limit.isSome then failAt "command only uses one address" rest
      else numbered (fun n => .quitSilently (n.getD 0)) rest
    | 'r' => (fileName rest).map fun (n, rest) => (.readFile n, rest.drop 1)
    | 'R' => (fileName rest).map fun (n, rest) => (.readLine n, rest.drop 1)
    | 'w' => (fileName rest).map fun (n, rest) => (.write n, rest.drop 1)
    | 'W' => (fileName rest).map fun (n, rest) => (.writeFirst n, rest.drop 1)
    | 's' => substitution extended rest
    | 'y' => transliteration rest
    | '=' => plain .number rest
    | 'z' => plain .clear rest
    | 'v' =>
      let (version, rest) := labelText rest
      let major := (number? version.toList).map Prod.fst
      if major.any (4 < ·) then failAt "expected newer version of sed" rest
      else plain .nothing rest
    | '#' =>
      if s.first.isSome then failAt "comments don't accept any addresses" rest
      else .ok (.nothing, (rest.dropWhile (· != '\n')).drop 1)
    | 'b' =>
      let (name, rest) := labelText rest
      plain (.branch 'b' name) rest
    | 't' =>
      let (name, rest) := labelText rest
      plain (.branch 't' name) rest
    | 'T' =>
      let (name, rest) := labelText rest
      plain (.branch 'T' name) rest
    | c => failAt ("unknown command: \x60" ++ String.singleton c ++ "'") rest

/-- How many blocks have begun in commands and not ended. -/
def openBlocks (cs : List Command) : Nat :=
  cs.foldr (fun c n => match c.action with
    | .opening => n + 1
    | .closing => n - 1
    | _ => n) 0

/-- The commands of a text, last first, after those read before. `blocks` counts the blocks that
are open. -/
def commands (extended : Bool) (fuel blocks : Nat) (done : List Command) (cs : List Char) :
    Except Fault (List Command) :=
  match fuel with
  | 0 => .ok done
  | fuel + 1 =>
    match cs.dropWhile fun c => isSpace c || c = ';' with
    | [] => .ok done
    | cs => do
      let (s, rest) ← selector extended cs
      let (a, rest) ← action extended blocks s rest
      match a with
      | .opening => commands extended fuel (blocks + 1) (⟨s, a⟩ :: done) rest
      | .closing => commands extended fuel (blocks - 1) (⟨s, a⟩ :: done) rest
      | .nothing => commands extended fuel blocks done rest
      | a => commands extended fuel blocks (⟨s, a⟩ :: done) rest

/-- A script: its commands, and the place behind the block or the label that each leads to. -/
structure Script where
  commands : Array Command
  targets : Array Nat
  deriving Inhabited

/-- The place behind the end of the block that is open. -/
def blockEnd (depth place : Nat) : List Command → Nat
  | [] => place
  | c :: rest =>
    match c.action with
    | .opening => blockEnd (depth + 1) (place + 1) rest
    | .closing => if depth = 0 then place + 1 else blockEnd (depth - 1) (place + 1) rest
    | _ => blockEnd depth (place + 1) rest

/-- The script of commands, or a label that stands nowhere. -/
def Script.ofCommands (cs : List Command) : Except String Script := do
  let size := cs.length
  let targets ← (cs.zipIdx).mapM fun (c, i) =>
    match c.action with
    | .opening => .ok (blockEnd 0 (i + 1) (cs.drop (i + 1)))
    | .branch _ "" => .ok size
    | .branch _ name =>
      match cs.findIdx? fun c => match c.action with
        | .label other => other == name
        | _ => false with
      | some n => .ok n
      | none => .error name
    | _ => .ok (i + 1)
  .ok ⟨cs.toArray, targets.toArray⟩

end HostFleet.Utility.Editing
