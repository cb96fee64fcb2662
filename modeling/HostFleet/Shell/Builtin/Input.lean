import HostFleet.Shell.Builtin.Variables
import HostFleet.Shell.Fields

/-!
# Reading input and arguments

The built-in commands that read lines of input into variables, and the one that takes options out
of arguments.
-/

namespace HostFleet.Shell.Builtin

open Machine

/-- A character of input, and whether a backslash protects it. -/
abbrev InputChar := Char × Bool

/-- Where reading a line stops. -/
structure LineEnd where
  delimiter : Char := '\n'
  /-- After this many characters, whatever they are. -/
  most : Option Nat := none

/-- Takes characters of input up to the end of the line, last one first. The rest is missing if
the line has not ended; `escaped` tells whether a backslash came last. -/
def takeLine (raw : Bool) (stop : LineEnd) (escaped : Bool) (done : List InputChar) :
    List Char → List InputChar × Bool × Option (List Char)
  | [] => (done, escaped, none)
  | c :: rest =>
    if stop.most = some done.length then (done, false, some (c :: rest))
    else if c = '\x00' && stop.delimiter != c then takeLine raw stop escaped done rest
    else if escaped then
      takeLine raw stop false (if c = '\n' then done else (c, true) :: done) rest
    else if c = '\x5c' && !raw then takeLine raw stop true done rest
    else if c = stop.delimiter then (done, false, some rest)
    else takeLine raw stop false ((c, false) :: done) rest

/-- Reads a line from a descriptor, and tells whether it came to an end. -/
def inputLine (fuel fd : Nat) (raw : Bool) (stop : LineEnd) (escaped : Bool)
    (done : List InputChar) : Act (List InputChar × Bool) :=
  match fuel with
  | 0 => pure (done.reverse, false)
  | fuel + 1 =>
    if stop.most = some done.length then pure (done.reverse, true)
    else do
      let one := stop.delimiter != '\n' || stop.most.isSome
      match ← if one then Program.readAtMost fd 1 else Program.readLine fd with
      | .error _ => pure (done.reverse, false)
      | .ok "" => pure (done.reverse, false)
      | .ok text =>
        match takeLine raw stop escaped done text.toList with
        | (done, escaped, none) => inputLine fuel fd raw stop escaped done
        | (done, _, some _) => pure (done.reverse, true)

/-- Gives each name its field; the last one takes all that is left. -/
def distribute (separators : List Char) (names : List String) (line : List InputChar) :
    List (String × String) :=
  let isSeparator (p : InputChar) : Bool := !p.2 && separators.contains p.1
  let isBlank (p : InputChar) : Bool := isSeparator p && Splitter.isBlank p.1
  let line := line.dropWhile isBlank
  let text (l : List InputChar) : String := String.ofList (l.map Prod.fst)
  match names with
  | [] => []
  | [name] =>
    let shown := (line.reverse.dropWhile isBlank).reverse
    let field := shown.takeWhile fun p => !isSeparator p
    let behind := (shown.drop field.length).dropWhile isBlank
    -- a single separator after the only field left does not belong to it
    let isLone := match behind with
      | [p] => isSeparator p && !isBlank p
      | _ => false
    [(name, text (if isLone then field else shown))]
  | name :: more =>
    let rest := (line.dropWhile fun p => !isSeparator p).dropWhile isBlank
    let rest := match rest with
      | p :: after => if isSeparator p then after else rest
      | [] => []
    (name, text (line.takeWhile fun p => !isSeparator p)) :: distribute separators more rest

/-- All fields of a line. -/
def fieldsOf (separators : List Char) (line : List InputChar) : List String :=
  (Splitter.fields separators (line.map fun p =>
    if p.2 then .fixed (String.singleton p.1) else .loose (String.singleton p.1))).map
      fun f => String.ofList (f.map Prod.fst)

def read : Builtin := fun args => do
  let s ← Act.state
  let (given, names) ← options (if s.isLarge then "ersa:d:i:n:N:p:t:u:" else "p:r") args
  let value? (c : Char) : Option String := (given.reverse.lookup c)
  let raw := (value? 'r').isSome
  let count := ((value? 'n').or (value? 'N')).bind Utility.natural?
  let delimiter := match value? 'd' with
    | some text => text.toList.headD '\x00'
    | none => if (value? 'N').isSome then '\x00' else '\n'
  let fd := ((value? 'u').bind Utility.natural?).getD 0
  if names.isEmpty && !s.isLarge then Act.fail "arg count"
  else match if s.isLarge then names.find? fun n => !isName (n.toList.takeWhile (· != '[')
      |> String.ofList) else none with
    | some name => Act.fail s!"\x60{name}\x27: not a valid identifier"
    | none => do
      let (line, ended) ← inputLine Program.plenty fd raw ⟨delimiter, count⟩ false []
      let separators := s.separators
      let whole := String.ofList (line.map Prod.fst)
      let set (name value : String) : Act Unit := do
        if isName name then Act.assignText name false value
        else if s.isLarge then
          let array := String.ofList (name.toList.takeWhile (· != '['))
          let key := String.ofList ((name.toList.drop (array.length + 1)).dropLast)
          Act.assignItem array key false value
        else badName name name
      match value? 'a', names with
      | some array, _ => Act.assignItems array false ((fieldsOf separators line).map (none, ·))
      | none, [] => set "REPLY" whole
      | none, names =>
        if (value? 'N').isSome then
          for (name, i) in names.zipIdx do
            set name (if i = 0 then whole else "")
        else
          for (name, value) in distribute separators names line do
            set name value
      Act.setStatus (if ended then 0 else 1)

/-- Reads lines into the items of an array. -/
def mapFile : Builtin := fun args => do
  let (given, args) ← options "d:n:O:s:tu:C:c:" args
  let value? (c : Char) : Option String := given.reverse.lookup c
  let fd := ((value? 'u').bind Utility.natural?).getD 0
  let delimiter := ((value? 'd').map fun d => d.toList.headD '\x00').getD '\n'
  let text := match ← Program.readAll fd Program.plenty [] with
    | .ok text => text
    | .error _ => ""
  let parts := text.splitOn (String.singleton delimiter)
  let ended := parts.getLast? == some ""
  let parts := if ended then parts.dropLast else parts
  let last := parts.length - 1
  let lines := parts.zipIdx.map fun (line, i) =>
    if (value? 't').isSome || (i = last && !ended) then line else line.push delimiter
  let lines := lines.drop (((value? 's').bind Utility.natural?).getD 0)
  let lines := match (value? 'n').bind Utility.natural? with
    | some n => if n = 0 then lines else lines.take n
    | none => lines
  Act.assignItems (args.headD "MAPFILE") false (lines.map (none, ·))
  Act.setStatus 0

/-! ## Options in arguments -/

/-- How an option in an argument is taken. -/
inductive Taken where
  /-- There are no more options. -/
  | none
  | option (c : Char) (value : Option String)
  | unknown (c : Char)
  | lacking (c : Char)

/-- The option at a place: the argument that comes next, and how far the one before was read. Also
the place behind it. -/
def takeOption (known : List Char) (args : List String) (index offset : Nat) :
    Taken × Nat × Nat :=
  let before := args[index - 2]?.getD ""
  let inside := if index ≤ 1 || offset = 0 then [] else before.toList.drop offset
  let start : Option (List Char × Nat × Nat) :=
    if !inside.isEmpty then some (inside, index, offset)
    else match args[index - 1]?.map String.toList with
      | some ('-' :: c :: cs) => some (c :: cs, index + 1, 1)
      | _ => Option.none
  match start with
  | Option.none => (.none, index, 0)
  | some (['-'], index, 1) => (.none, index, 0)
  | some ([], index, _) => (.none, index, 0)
  | some (c :: cs, index, offset) =>
    match if c = ':' then Option.none else Utility.Options.arity? c known with
    | Option.none => (.unknown c, index, offset + 1)
    | some .none => (.option c Option.none, index, offset + 1)
    | some _ =>
      if !cs.isEmpty then (.option c (some (String.ofList cs)), index, 0)
      else match args[index - 1]? with
        | some value => (.option c (some value), index + 1, 0)
        | Option.none => (.lacking c, index, offset + 1)

def getopts : Builtin := fun args => do
  let s ← Act.state
  match args with
  | known :: name :: more => do
    let args := if more.isEmpty then s.args else more
    let fits := s.optionIndex ≤ args.length + 1
    let (index, offset) := if fits then (s.optionIndex, s.optionOffset) else (1, 0)
    let quiet := known.startsWith ":"
    let (taken, index, offset) := takeOption known.toList args index offset
    let unsetValue : Act Unit := Act.update fun s => { s with vars := s.vars.erase "OPTARG" }
    let fault (c sign : Char) (message : String) : Act Char :=
      if quiet then do
        Act.assign "OPTARG" (String.singleton c)
        pure sign
      else do
        if s.isLarge then Act.print 2 s!"{s.name}: {message} -- {c}\n"
        else Act.print 2 (message ++ "\n")
        unsetValue
        pure '?'
    let letter ← match taken with
      | .none => do
        if s.isLarge then unsetValue
        pure '?'
      | .option c value => do
        match value with
        | some value => Act.assign "OPTARG" value
        | none => if s.isLarge then unsetValue else Act.assign "OPTARG" ""
        pure c
      | .unknown c => fault c '?' (if s.isLarge then "illegal option" else s!"Illegal option -{c}")
      | .lacking c => fault c ':' (if s.isLarge then "option requires an argument"
          else s!"No arg for -{c} option")
    Act.update fun s => { s with vars := s.vars.insert "OPTIND" (toString index) }
    Act.assign name (String.singleton letter)
    Act.update fun s => { s with optionIndex := index, optionOffset := offset }
    Act.setStatus (match taken with
      | .none => 1
      | _ => 0)
  | _ =>
    if s.isLarge then showUsage else Act.fail "Usage: getopts optstring var [arg...]"

end HostFleet.Shell.Builtin
