import HostFleet.Machine.Entries
import HostFleet.Shell.Pattern
import HostFleet.Text.Regex
import HostFleet.Utility.Identity
import HostFleet.Utility.Listing

/-!
# Searching folders

`find` goes through folders and does with each entry what an expression of tests and actions says.
-/

namespace HostFleet.Utility

open Machine

/-- A number with a sign that says whether more, less or just as much is meant. -/
structure Measure where
  order : Ordering
  count : Nat

namespace Measure

def accepts (m : Measure) (n : Nat) : Bool := compare n m.count == m.order

/-- The measure at the front of a text, and what follows it. -/
def read? (text : String) : Option (Measure × String) :=
  let (order, cs) := match text.toList with
    | '+' :: cs => (Ordering.gt, cs)
    | '-' :: cs => (.lt, cs)
    | cs => (.eq, cs)
  let ds := cs.takeWhile Char.isDigit
  (natural? (String.ofList ds)).map fun n => (⟨order, n⟩, String.ofList (cs.drop ds.length))

/-- A text that is nothing but a measure. -/
def ofText? (text : String) : Option Measure :=
  match read? text with
  | some (m, "") => some m
  | _ => none

end Measure

/-- What is known of an entry. -/
structure FoundEntry where
  path : String
  /-- The argument below which it was found. -/
  root : String
  depth : Nat
  kind : Kind
  mode : Nat
  time : Int
  isEmpty : Bool

namespace FoundEntry

/-- The last part of the path. -/
def name (e : FoundEntry) : String :=
  let cs := e.path.toList.reverse
  let kept := cs.dropWhile (· = '/')
  if kept.isEmpty then (if cs.isEmpty then "" else "/")
  else String.ofList (kept.takeWhile (· != '/')).reverse

/-- The path without its last part. -/
def front (e : FoundEntry) : String :=
  let cs := e.path.toList.reverse
  let rest := cs.dropWhile (· != '/')
  if rest.isEmpty then "." else String.ofList rest.tail.reverse

/-- The path as seen from the argument. -/
def inner (e : FoundEntry) : String :=
  String.ofList ((e.path.toList.drop e.root.length).dropWhile (· = '/'))

def size (e : FoundEntry) : Nat :=
  match e.kind with
  | .file content => content.length
  | .folder => 4096
  | .link target => target.utf8ByteSize
  | .device _ => 0

def letter (e : FoundEntry) : Char :=
  match e.kind with
  | .file _ => 'f'
  | .folder => 'd'
  | .link _ => 'l'
  | .device _ => 'c'

end FoundEntry

/-- Tests and actions. -/
inductive FindTerm where
  | always (b : Bool)
  /-- A pattern for the name, the path or the target of a link. -/
  | like (part : String) (anyCase : Bool) (p : Shell.Pattern)
  | matching (anyCase : Bool) (r : Regex)
  | kind (letters : List Char)
  | size (m : Measure) (unit : Nat)
  | empty
  | newer (time : Int)
  /-- The age in units of so many microseconds. -/
  | age (m : Measure) (unit : Nat)
  | links (m : Measure)
  | owner (isRoot : Bool)
  /-- Permissions: exactly these, all of these, or any of these. -/
  | permissions (sign : Option Char) (bits : Nat)
  | runnable
  | print (stop : String)
  | format (text : String)
  | run (words : List String) (inside : Bool)
  | collect (words : List String)
  | erase
  | prune
  | quit
  | not (t : FindTerm)
  | both (a b : FindTerm)
  | either (a b : FindTerm)
  | after (a b : FindTerm)

namespace FindTerm

/-- Whether something is done besides testing. -/
def acts : FindTerm → Bool
  | print _ | format _ | run _ _ | collect _ | erase | quit => true
  | not t => t.acts
  | both a b => a.acts || b.acts
  | either a b => a.acts || b.acts
  | after a b => a.acts || b.acts
  | _ => false

/-- Whether entries are taken away. -/
def erases : FindTerm → Bool
  | erase => true
  | not t => t.erases
  | both a b => a.erases || b.erases
  | either a b => a.erases || b.erases
  | after a b => a.erases || b.erases
  | _ => false

/-- The formats in which entries are written. -/
def formats : FindTerm → List String
  | format text => [text]
  | not t => t.formats
  | both a b => a.formats ++ b.formats
  | either a b => a.formats ++ b.formats
  | after a b => a.formats ++ b.formats
  | _ => []

/-- The commands that are run with all entries at once. -/
def collected : FindTerm → List (List String)
  | collect words => [words]
  | not t => t.collected
  | both a b => a.collected ++ b.collected
  | either a b => a.collected ++ b.collected
  | after a b => a.collected ++ b.collected
  | _ => []

end FindTerm

/-- How folders are searched. -/
structure Finder where
  term : FindTerm
  least : Nat := 0
  most : Option Nat := none
  deepFirst : Bool := false
  /-- Whether links are followed: always, for arguments, or never. -/
  follow : Char := 'P'

/-! ## Reading the expression -/

namespace Finder

/-- A fault in an expression, or the message that it is. -/
abbrev Reading := Except String

/-- The pattern of a text whose backslashes quote. -/
def patternOf (anyCase : Bool) (text : String) : Shell.Pattern :=
  Shell.Pattern.read false (pairs (if anyCase then text.map Char.toLower else text).toList)
where
  pairs : List Char → List (Char × Bool)
    | '\x5c' :: c :: rest => (c, true) :: pairs rest
    | c :: rest => (c, false) :: pairs rest
    | [] => []

/-- A regular expression with the backslashes in front of its signs exchanged. -/
def exchanged : List Char → List Char
  | '\x5c' :: c :: rest =>
    if "(){}|".contains c then c :: exchanged rest else '\x5c' :: c :: exchanged rest
  | c :: rest => if "(){}|".contains c then '\x5c' :: c :: exchanged rest else c :: exchanged rest
  | [] => []

def units : List (Char × Nat) :=
  [('c', 1), ('w', 2), ('b', 512), ('k', 1024), ('M', 1048576), ('G', 1073741824)]

def sizeTerm (text : String) : Reading FindTerm :=
  match Measure.read? text with
  | some (m, "") => .ok (.size m 512)
  | some (m, unit) =>
    match unit.toList with
    | [c] =>
      match units.lookup c with
      | some n => .ok (.size m n)
      | none => .error ("invalid -size type \x60" ++ unit ++ "'")
    | _ => .error ("invalid -size type \x60"
        ++ String.singleton (text.toList.getLastD ' ') ++ "'")
  | none => .error ("invalid -size type \x60"
      ++ String.singleton (text.toList.getLastD ' ') ++ "'")

def kindTerm (option text : String) : Reading FindTerm :=
  let rec letters : List Char → Reading (List Char)
    | [] => .error ("Arguments to " ++ option ++ " should contain at least one letter")
    | [c] => known c []
    | c :: ',' :: rest =>
      if rest.isEmpty then .error ("Last file type in list argument to " ++ option
        ++ " is missing, i.e., list is ending on: ','")
      else do known c (← letters rest)
    | c :: _ => do
      discard (known c [])
      .error ("Must separate multiple arguments to " ++ option ++ " using: ','")
  (letters text.toList).map .kind
where
  known (c : Char) (more : List Char) : Reading (List Char) :=
    if "bcdpflsD".contains c then .ok (c :: more)
    else .error ("Unknown argument to " ++ option ++ ": " ++ String.singleton c)

def permissionTerm (text : String) : Reading FindTerm :=
  let (sign, body) := match text.toList with
    | '-' :: cs => (some '-', String.ofList cs)
    | '/' :: cs => (some '/', String.ofList cs)
    | _ => (none, text)
  match Mode.edit? body 0 true 0 with
  | some bits => .ok (.permissions sign bits)
  | none => .error ("invalid mode " ++ inQuotes text)

def measureTerm (option text : String) (make : Measure → FindTerm) : Reading FindTerm :=
  match Measure.ofText? text with
  | some m => .ok (make m)
  | none => .error ("invalid argument \x60" ++ text ++ "' to \x60" ++ option ++ "'")

/-- A command up to the sign that ends it: the words, whether it takes all entries at once, and what
follows. -/
def command (option : String) (done : List String) :
    List String → Reading (List String × Bool × List String)
  | [] => .error ("missing argument to \x60" ++ option ++ "'")
  | ";" :: rest =>
    if done.isEmpty then .error ("missing argument to \x60" ++ option ++ "'")
    else .ok (done.reverse, false, rest)
  | "+" :: rest =>
    if done.head? = some "\x7b\x7d" then
      if 1 < (done.filter (· = "\x7b\x7d")).length then
        .error ("Only one instance of \x7b\x7d is supported with " ++ option ++ " ... +")
      else .ok (done.tail.reverse, true, rest)
    else command option ("+" :: done) rest
  | word :: rest => command option (word :: done) rest

/-- Whether an argument belongs to the expression and not to the paths. -/
def isExpression (leading : Bool) (arg : String) : Bool :=
  match arg.toList with
  | '-' :: _ :: _ => true
  | ['!'] => true
  | ['('] => true
  | [')'] => !leading
  | [','] => !leading
  | _ => false

/-- The options that hold for the whole search. -/
structure Settings where
  least : Nat := 0
  most : Option Nat := none
  deepFirst : Bool := false

/-- What is known of the machine when an expression is read. -/
structure Context where
  users : List String
  groups : List String
  /-- The time of a file. -/
  timeOf : String → Except OsError Int

/-- A test or action with the arguments it takes. -/
def primary (cx : Context) (s : Settings) (option : String) (args : List String) :
    Reading (FindTerm × Settings × List String) :=
  let alone (t : FindTerm) : Reading (FindTerm × Settings × List String) := .ok (t, s, args)
  let one (make : String → Reading FindTerm) : Reading (FindTerm × Settings × List String) :=
    match args with
    | [] => .error ("missing argument to \x60" ++ option ++ "'")
    | arg :: rest => do .ok (← make arg, s, rest)
  let depth (change : Nat → Settings) : Reading (FindTerm × Settings × List String) :=
    match args with
    | [] => .error ("missing argument to \x60" ++ option ++ "'")
    | arg :: rest =>
      match natural? arg with
      | some n => .ok (.always true, change n, rest)
      | none => .error ("Expected a positive decimal integer argument to " ++ option
          ++ ", but got " ++ inQuotes arg)
  let like (part : String) (anyCase : Bool) : Reading (FindTerm × Settings × List String) :=
    one fun text => .ok (.like part anyCase (patternOf anyCase text))
  let regex (anyCase : Bool) : Reading (FindTerm × Settings × List String) := one fun text =>
    let text := if anyCase then text.map Char.toLower else text
    match Regex.read Regex.extended (String.ofList (exchanged text.toList)) with
    | .ok (r, _) => .ok (.matching anyCase r)
    | .error e => .error ("failed to compile regular expression '" ++ text ++ "': " ++ e.message)
  let someone (names : List String) (what : String) : Reading (FindTerm × Settings × List String) :=
    one fun name =>
      if names.contains name then .ok (.owner (name = "root"))
      else match natural? name with
        | some n => .ok (.owner (n = 0))
        | none => .error (inQuotes name ++ " is not the name of " ++ what)
  let run (inside : Bool) : Reading (FindTerm × Settings × List String) := do
    let (words, all, rest) ← command option [] args
    .ok (if all then .collect words else .run words inside, s, rest)
  match option with
  | "-true" => alone (.always true)
  | "-false" => alone (.always false)
  | "-name" => like "name" false
  | "-iname" => like "name" true
  | "-path" => like "path" false
  | "-wholename" => like "path" false
  | "-ipath" => like "path" true
  | "-iwholename" => like "path" true
  | "-lname" => like "link" false
  | "-ilname" => like "link" true
  | "-regex" => regex false
  | "-iregex" => regex true
  | "-type" => one (kindTerm option)
  | "-xtype" => one (kindTerm option)
  | "-size" => one sizeTerm
  | "-empty" => alone .empty
  | "-newer" => one fun name =>
    match cx.timeOf name with
    | .ok t => .ok (.newer t)
    | .error e => .error (inQuotes name ++ ": " ++ e.reason)
  | "-mtime" => one fun text => measureTerm option text (.age · 86400000000)
  | "-atime" => one fun text => measureTerm option text (.age · 86400000000)
  | "-ctime" => one fun text => measureTerm option text (.age · 86400000000)
  | "-mmin" => one fun text => measureTerm option text (.age · 60000000)
  | "-amin" => one fun text => measureTerm option text (.age · 60000000)
  | "-cmin" => one fun text => measureTerm option text (.age · 60000000)
  | "-links" => one fun text => measureTerm option text .links
  | "-user" => someone cx.users "a known user"
  | "-group" => someone cx.groups "an existing group"
  | "-uid" => one fun text => measureTerm option text fun m => .always (m.accepts 0)
  | "-gid" => one fun text => measureTerm option text fun m => .always (m.accepts 0)
  | "-nouser" => alone (.always false)
  | "-nogroup" => alone (.always false)
  | "-perm" => one permissionTerm
  | "-readable" => alone (.always true)
  | "-writable" => alone (.always true)
  | "-executable" => alone .runnable
  | "-print" => alone (.print "\n")
  | "-print0" => alone (.print "\x00")
  | "-printf" => one fun text =>
    if (text.toList.reverse.takeWhile (· = '%')).length % 2 = 1 then
      .error "error: % at end of format string"
    else .ok (.format text)
  | "-exec" => run false
  | "-execdir" => run true
  | "-delete" => .ok (.erase, { s with deepFirst := true }, args)
  | "-prune" => alone .prune
  | "-quit" => alone .quit
  | "-depth" => .ok (.always true, { s with deepFirst := true }, args)
  | "-d" => .ok (.always true, { s with deepFirst := true }, args)
  | "-maxdepth" => depth fun n => { s with most := some n }
  | "-mindepth" => depth fun n => { s with least := n }
  | "-xdev" => alone (.always true)
  | "-mount" => alone (.always true)
  | "-daystart" => alone (.always true)
  | "-noleaf" => alone (.always true)
  | "-warn" => alone (.always true)
  | "-nowarn" => alone (.always true)
  | "-ignore_readdir_race" => alone (.always true)
  | _ => .error ("unknown predicate \x60" ++ option ++ "'")

def isAnd (word : String) : Bool := word = "-a" || word = "-and"

def isOr (word : String) : Bool := word = "-o" || word = "-or"

def isNot (word : String) : Bool := word = "!" || word = "-not"

mutual

/-- Expressions that a comma separates, or one that a parenthesis ends. -/
def readAll (cx : Context) (fuel depth : Nat) (s : Settings) (before : Option String)
    (args : List String) : Reading (FindTerm × Settings × List String) :=
  match fuel with
  | 0 => .error "expression too long"
  | fuel + 1 => do
    let (t, s, rest) ← readOr cx fuel depth s before args
    match rest with
    | "," :: rest => do
      let (u, s, rest) ← readAll cx fuel depth s (some ",") rest
      .ok (.after t u, s, rest)
    | rest => .ok (t, s, rest)

def readOr (cx : Context) (fuel depth : Nat) (s : Settings) (before : Option String)
    (args : List String) : Reading (FindTerm × Settings × List String) :=
  match fuel with
  | 0 => .error "expression too long"
  | fuel + 1 => do
    let (t, s, rest) ← readAnd cx fuel depth s before args
    match rest with
    | word :: rest =>
      if isOr word then do
        let (u, s, rest) ← readOr cx fuel depth s (some word) rest
        .ok (.either t u, s, rest)
      else .ok (t, s, word :: rest)
    | [] => .ok (t, s, [])

def readAnd (cx : Context) (fuel depth : Nat) (s : Settings) (before : Option String)
    (args : List String) : Reading (FindTerm × Settings × List String) :=
  match fuel with
  | 0 => .error "expression too long"
  | fuel + 1 => do
    let (t, s, rest) ← readNot cx fuel depth s before args
    let more (before : Option String) (rest : List String) :
        Reading (FindTerm × Settings × List String) := do
      let (u, s, rest) ← readAnd cx fuel depth s before rest
      .ok (.both t u, s, rest)
    match rest with
    | [] => .ok (t, s, [])
    | word :: after =>
      if isAnd word then more (some word) after
      else if isOr word || word = "," || word = ")" then .ok (t, s, rest)
      else more none rest

def readNot (cx : Context) (fuel depth : Nat) (s : Settings) (before : Option String)
    (args : List String) : Reading (FindTerm × Settings × List String) :=
  match fuel with
  | 0 => .error "expression too long"
  | fuel + 1 =>
    match args with
    | [] =>
      match before with
      | some "(" => .error ("invalid expression; expected to find a ')' but didn't see one. "
          ++ "Perhaps you need an extra predicate after '('")
      | some word => .error ("expected an expression after '" ++ word ++ "'")
      | none => .error "invalid expression"
    | word :: rest =>
      if isNot word then do
        let (t, s, rest) ← readNot cx fuel depth s (some word) rest
        .ok (.not t, s, rest)
      else if word = "(" then do
        if rest.head? = some ")" then
          .error "invalid expression; empty parentheses are not allowed."
        else
          let (t, s, rest) ← readAll cx fuel (depth + 1) s (some "(") rest
          match rest with
          | ")" :: rest => .ok (t, s, rest)
          | _ => .error ("invalid expression; I was expecting to find a ')' somewhere but did not "
              ++ "see one.")
      else if isAnd word || isOr word || word = "," then
        match before with
        | some before => .error ("expected an expression between '" ++ before ++ "' and '" ++ word
            ++ "'")
        | none => .error ("invalid expression; you have used a binary operator '" ++ word
            ++ "' with nothing before it.")
      else if word = ")" then
        match before with
        | some before => .error ("expected an expression between '" ++ before ++ "' and ')'")
        | none => .error "you have too many ')'"
      else if !word.startsWith "-" || word = "-" then
        .error ("paths must precede expression: \x60" ++ word ++ "'")
      else primary cx s word rest

end

/-- The whole expression. -/
def ofArgs (cx : Context) (follow : Char) (args : List String) : Reading Finder :=
  if args.isEmpty then .ok { term := .print "\n", follow := follow }
  else do
    let (t, s, rest) ← readAll cx (8 * args.length + 20) 0 {} none args
    match rest with
    | [] =>
      .ok { term := if t.acts then t else .both t (.print "\n"), least := s.least, most := s.most
            deepFirst := s.deepFirst, follow := follow }
    | _ => .error "you have too many ')'"

/-! ## Going through folders -/

/-- What a search has come to: whether it is over, whether a folder is left out, whether all went
well, and the entries that commands take together. -/
structure State where
  isOver : Bool := false
  skips : Bool := false
  fine : Bool := true
  collected : List (List String × List String) := []

/-- The permissions as letters. -/
def modeLetters (e : FoundEntry) : String :=
  let bit (i : Nat) (c : Char) : Char := if e.mode.testBit i then c else '-'
  let run (i s : Nat) (low : Char) : Char :=
    if e.mode.testBit s then (if e.mode.testBit i then low else low.toUpper)
    else if e.mode.testBit i then 'x' else '-'
  String.ofList [if e.letter = 'f' then '-' else e.letter, bit 8 'r', bit 7 'w', run 6 11 's',
    bit 5 'r', bit 4 'w', run 3 10 's', bit 2 'r', bit 1 'w', run 0 9 't']

/-- What a letter behind a percent sign stands for. -/
def directive? (e : FoundEntry) (c : Char) : Option String :=
  let blocks := (e.size + 4095) / 4096 * 8
  match c with
  | 'p' => some e.path
  | 'f' => some e.name
  | 'h' => some e.front
  | 'P' => some e.inner
  | 'H' => some e.root
  | 'd' => some (toString e.depth)
  | 'y' => some (String.singleton e.letter)
  | 's' => some (toString e.size)
  | 'm' => some (String.ofList (Nat.toDigits 8 e.mode))
  | 'M' => some (modeLetters e)
  | 'u' => some "root"
  | 'g' => some "root"
  | 'U' => some "0"
  | 'G' => some "0"
  | 'n' => some "1"
  | 'b' => some (toString blocks)
  | 'k' => some (toString (blocks / 2))
  | 'l' => some (match e.kind with
    | .link target => ByteText.ofText target
    | _ => "")
  | 't' => some ((momentOf {} e.time).format "%a %b %e %H:%M:%S.%N0 %Y")
  | '%' => some "%"
  | _ => none

/-- A format with what it says of an entry, and the complaints about it. -/
def formatted (e : FoundEntry) (fuel : Nat) (cs : List Char) : String × List String :=
  match fuel, cs with
  | 0, _ => ("", [])
  | _, [] => ("", [])
  | fuel + 1, '%' :: rest =>
    let flags := rest.takeWhile fun c => c.isDigit || c = '-'
    match rest.drop flags.length with
    | [] => ("%", [])
    | c :: more =>
      let (text, complaints) := formatted e fuel more
      match directive? e c with
      | some value =>
        let width := (natural? (String.ofList (flags.dropWhile (· = '-')))).getD 0
        let value := if flags.head? = some '-' then padRight width value else padLeft width value
        (value ++ text, complaints)
      | none =>
        ("%" ++ String.singleton c ++ text,
          ("warning: unrecognized format directive \x60%" ++ String.singleton c ++ "'")
            :: complaints)
  | fuel + 1, '\x5c' :: c :: more =>
    let digits := (c :: more).takeWhile fun c => '0' ≤ c && c ≤ '7'
    let digits := digits.take 3
    let known := ("abfnrtv\x5c".toList.zip "\x07\x08\x0c\n\r\t\x0b\x5c".toList).lookup c
    if !digits.isEmpty then
      let n := digits.foldl (fun n c => n * 8 + (c.toNat - 48)) 0
      let (text, complaints) := formatted e fuel ((c :: more).drop digits.length)
      (String.singleton (Char.ofNat (n % 256)) ++ text, complaints)
    else
      let (text, complaints) := formatted e fuel more
      match known with
      | some known => (String.singleton known ++ text, complaints)
      | none =>
        if c = 'c' then ("", [])
        else ("\x5c" ++ String.singleton c ++ text,
          ("warning: unrecognized escape \x60\x5c" ++ String.singleton c ++ "'") :: complaints)
  | fuel + 1, c :: rest =>
    let (text, complaints) := formatted e fuel rest
    (String.singleton c ++ text, complaints)

/-- Runs a command and tells whether it ended well. -/
def runCommand (c : Call) (folder : Option String) (words : List String) : Program Bool := do
  let body : Program Nat := do
    match folder with
    | some path => Program.change fun pid k => k.changeProcess pid fun p =>
        { p with folder := path }
    | none => pure ()
    let e ← c.become (words.headD "") words.tail c.vars
    c.warn (inQuotes (words.headD "") ++ ": " ++ e.reason)
    pure 1
  let child ← Program.fork (·) body.toProc
  pure ((← Program.waitFor child) == some (.exited 0))

/-- A text with each pair of braces in it replaced. -/
def withName (name text : String) : String := name.intercalate (text.splitOn "\x7b\x7d")

/-- Takes an entry away. -/
def eraseEntry (e : FoundEntry) : Program (Except OsError Unit) :=
  if e.kind == .folder then Program.attempt fun pid k => k.removeFolder pid e.path
  else Program.attempt fun pid k => k.unlink pid e.path

/-- Does what an expression says with an entry, and tells whether it holds of it. -/
def judge (c : Call) (e : FoundEntry) (now : Int) : FindTerm → State → Program (Bool × State)
  | .always b, s => pure (b, s)
  | .like part anyCase p, s =>
    let text := match part with
      | "name" => some e.name
      | "path" => some e.path
      | _ => match e.kind with
        | .link target => some (ByteText.ofText target)
        | _ => none
    pure (text.any fun text =>
      p.isMatch (if anyCase then text.map Char.toLower else text).toList, s)
  | .matching anyCase r, s =>
    let text := if anyCase then e.path.map Char.toLower else e.path
    let cs := text.toList.toArray
    pure ((Regex.longestAt? {} r cs 0).any fun m => m.stop = cs.size, s)
  | .kind letters, s => pure (letters.contains e.letter, s)
  | .size m unit, s => pure (m.accepts ((e.size + unit - 1) / unit), s)
  | .empty, s => pure (e.isEmpty, s)
  | .newer time, s => pure (time < e.time, s)
  | .age m unit, s => pure (m.accepts ((now - e.time).toNat / unit), s)
  | .links m, s => pure (m.accepts 1, s)
  | .owner isRoot, s => pure (isRoot, s)
  | .permissions sign bits, s =>
    pure (match sign with
      | none => e.mode == bits
      | some '-' => e.mode &&& bits == bits
      | some _ => bits == 0 || e.mode &&& bits != 0, s)
  | .runnable, s => pure (e.mode &&& 0o111 != 0, s)
  | .print stop, s => do
    c.put (e.path ++ stop)
    pure (true, s)
  | .format text, s => do
    c.put (formatted e (text.length + 1) text.toList).1
    pure (true, s)
  | .run words inside, s => do
    let files ← Program.files
    let own ← Program.folder
    let folder := if !inside then none
      else match files.locate true own e.front with
        | .ok place => some (Files.shown place)
        | .error _ => none
    let name := if inside then "./" ++ e.name else e.path
    pure (← runCommand c folder (words.map (withName name)), s)
  | .collect words, s =>
    pure (true, { s with collected := s.collected.map fun (w, names) =>
      if w == words then (w, e.path :: names) else (w, names) })
  | .erase, s => do
    if e.path = "." then pure (true, s)
    else match ← eraseEntry e with
      | .ok () => pure (true, s)
      | .error err => do
        c.warn ("cannot delete " ++ inQuotes e.path ++ ": " ++ err.reason)
        pure (false, { s with fine := false })
  | .prune, s => pure (true, { s with skips := true })
  | .quit, s => pure (true, { s with isOver := true })
  | .not t, s => do
    let (b, s) ← judge c e now t s
    pure (!b, s)
  | .both a b, s => do
    let (holds, s) ← judge c e now a s
    if holds && !s.isOver then judge c e now b s else pure (holds, s)
  | .either a b, s => do
    let (holds, s) ← judge c e now a s
    if holds || s.isOver then pure (holds, s) else judge c e now b s
  | .after a b, s => do
    let (_, s) ← judge c e now a s
    if s.isOver then pure (true, s) else judge c e now b s

/-- Goes through an entry and what is below it. -/
def visit (c : Call) (f : Finder) (root : String) (fuel depth : Nat) (path : String) (s : State) :
    Program State :=
  match fuel with
  | 0 => pure s
  | fuel + 1 => do
    if s.isOver then pure s
    else
      let files ← Program.files
      let own ← Program.folder
      let follows := f.follow = 'L' || (f.follow = 'H' && depth = 0)
      let found : Except OsError (Place × Kind) := match files.lookup follows own path with
        | .ok found => .ok found
        | .error e => if follows then files.lookup false own path else .error e
      match found with
      | .error e => do
        c.warn (inQuotes path ++ ": " ++ e.reason)
        pure { s with fine := false }
      | .ok (place, kind) => do
        let names := if kind == .folder then files.entries place else []
        let e : FoundEntry :=
          { path := path, root := root, depth := depth, kind := kind, mode := files.mode place
            time := files.time place
            isEmpty := match kind with
              | .file content => content.isEmpty
              | .folder => names.isEmpty
              | _ => false }
        let meet (s : State) : Program State := do
          if depth < f.least || s.isOver then pure s
          else
            let now ← Program.now
            pure (← judge c e now f.term { s with skips := false }).2
        let s ← if f.deepFirst then pure { s with skips := false } else meet s
        let goesOn := kind == .folder && (f.deepFirst || !s.skips) && f.most.all (depth < ·)
        let s ← if !goesOn then pure s else names.foldlM (fun s name =>
          visit c f root fuel (depth + 1)
            (if path.endsWith "/" then path ++ name else path ++ "/" ++ name) s) s
        if f.deepFirst then meet s else pure s

end Finder

def find : Utility := fun c => do
  let isOption (arg : String) : Bool := ["-H", "-L", "-P"].contains arg || arg.startsWith "-O"
  let options := c.args.takeWhile isOption
  let follow := (options.filter fun o => !o.startsWith "-O").getLast?.map fun o =>
    o.toList.getLastD 'P'
  let args := c.args.drop options.length
  if args.head? = some "-D" then do
    c.warn "Missing argument after the -D option."
    Program.tell 2 (c.hint ++ "\n")
    pure 1
  else
    let args := if args.head? = some "--" then args.tail else args
    let paths := args.takeWhile fun arg => !Finder.isExpression true arg
    let files ← Program.files
    let folder ← Program.folder
    let cx : Finder.Context :=
      { users := (← User.all).map (·.name)
        groups := (← Group.all).map (·.name)
        timeOf := fun name => (files.lookup true folder name).map fun (place, _) =>
          files.time place }
    match Finder.ofArgs cx (follow.getD 'P') (args.drop paths.length) with
    | .error message => c.fail message 1
    | .ok f => do
      let nothing : FoundEntry :=
        { path := "", root := "", depth := 0, kind := .folder, mode := 0, time := 0
          isEmpty := true }
      for text in f.term.formats do
        for complaint in (Finder.formatted nothing (text.length + 1) text.toList).2 do
          c.warn complaint
      let begun : Finder.State := { collected := f.term.collected.map fun words => (words, []) }
      let s ← (if paths.isEmpty then ["."] else paths).foldlM (fun s path =>
        Finder.visit c f path 1000 0 path s) begun
      let fine ← s.collected.foldlM (fun fine (words, names) => do
        if names.isEmpty then pure fine
        else
          let done ← Finder.runCommand c none (words ++ names.reverse)
          pure (fine && done)) s.fine
      pure (if fine then 0 else 1)

end HostFleet.Utility
