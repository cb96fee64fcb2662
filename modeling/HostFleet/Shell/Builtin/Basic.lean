import HostFleet.Machine.Mode
import HostFleet.Shell.Flow
import HostFleet.Utility.Condition
import HostFleet.Utility.Options

/-!
# Built-in commands

The commands that a shell carries out itself because they act on it. Here stand those that steer
the flow of control, that write, and that change the folder of the shell.
-/

namespace HostFleet.Shell

open Machine

abbrev Builtin := List String → Act Unit

namespace Builtin

/-- How commands of the large shell are to be used. -/
def usages : List (String × String) :=
  [("cd", "cd [-L|[-P [-e]] [-@]] [dir]"), ("pwd", "pwd [-LP]"),
    ("set", "set [-abefhkmnptuvxBCEHPT] [-o option-name] [--] [-] [arg ...]"),
    ("read", "read [-ers] [-a array] [-d delim] [-i text] [-n nchars] [-N nchars] [-p prompt] "
      ++ "[-t timeout] [-u fd] [name ...]"),
    ("kill", "kill [-s sigspec | -n signum | -sigspec] pid | jobspec ... or kill -l [sigspec]"),
    ("source", "source filename [arguments]"), (".", ". filename [arguments]"),
    ("printf", "printf [-v var] format [arguments]"),
    ("getopts", "getopts optstring name [arg ...]"),
    ("command", "command [-pVv] command [arg ...]"), ("unset", "unset [-f] [-v] [-n] [name ...]"),
    ("export", "export [-fn] [name[=value] ...] or export -p"),
    ("readonly", "readonly [-aAf] [name[=value] ...] or readonly -p"),
    ("type", "type [-afptP] name [name ...]"), ("umask", "umask [-p] [-S] [mode]"),
    ("alias", "alias [-p] [name[=value] ... ]"), ("unalias", "unalias [-a] name [name ...]"),
    ("trap", "trap [-lp] [[arg] signal_spec ...]"), ("wait", "wait [-fn] [-p var] [id ...]"),
    ("jobs", "jobs [-lnprs] [jobspec ...] or jobs -x command [args]"),
    ("hash", "hash [-lr] [-p pathname] [-dt] [name ...]"),
    ("shopt", "shopt [-pqsu] [-o] [optname ...]"),
    ("declare", "declare [-aAfFgiIlnrtux] [name[=value] ...] or declare -p [-aAfFilnrtux] "
      ++ "[name ...]"),
    ("typeset", "typeset [-aAfFgiIlnrtux] name[=value] ... or typeset -p [-aAfFilnrtux] "
      ++ "[name ...]"),
    ("local", "local [option] name[=value] ..."), ("exec", "exec [-cl] [-a name] [command "
      ++ "[argument ...]] [redirection ...]"),
    ("mapfile", "mapfile [-d delim] [-n count] [-O origin] [-s count] [-t] [-u fd] [-C callback] "
      ++ "[-c quantum] [array]"),
    ("readarray", "readarray [-d delim] [-n count] [-O origin] [-s count] [-t] [-u fd] "
      ++ "[-C callback] [-c quantum] [array]"),
    ("eval", "eval [arg ...]"), ("let", "let arg [arg ...]"), ("shift", "shift [n]"),
    ("times", "times"), ("caller", "caller [expr]")]

/-- The bucket of a name. Listings go from bucket to bucket. -/
def bucket (size : Nat) (name : String) : Nat :=
  let cs := name.toList.map Char.toNat
  (16 * cs.headD 0 + cs.foldl (· + ·) 0) % size

/-- Items by the bucket of their names. -/
def byBucket {α : Type} (size : Nat) (items : List (String × α)) : List (String × α) :=
  items.mergeSort fun a b => bucket size a.1 ≤ bucket size b.1

/-- An option that is not known. -/
def unknownOption {α : Type} (option : String) : Act α := do
  let s ← Act.state
  if s.isLarge then do
    let name := s.builtin.getD ""
    Act.complain s!"{option}: invalid option"
    match usages.lookup name with
    | some usage => Act.print 2 s!"{name}: usage: {usage}\n"
    | none => pure ()
    Act.leave (.fault 2)
  else Act.fail s!"Illegal option {option}"

/-- The large shell's answer to a command without what it needs. -/
def showUsage {α : Type} : Act α := do
  let name := (← Act.state).builtin.getD ""
  Act.print 2 s!"{name}: usage: {(usages.lookup name).getD name}\n"
  Act.leave (.fault 2)

/-- Options of one letter behind a dash; whether the next argument was taken as a value, or the
letter that is wrong and whether it lacks a value. -/
def letters (known : String) (next : Option String) :
    List Char → Except (Char × Bool) (List (Char × String) × Bool)
  | [] => .ok ([], false)
  | c :: cs =>
    match if c = ':' then none else Utility.Options.arity? c known.toList with
    | none => .error (c, false)
    | some .none => (letters known next cs).map fun (found, taken) => ((c, "") :: found, taken)
    | some _ =>
      if !cs.isEmpty then .ok ([(c, String.ofList cs)], false)
      else match next with
        | some value => .ok ([(c, value)], true)
        | none => .error (c, true)

/-- The options at the front of the arguments, and the rest. `skip` says that the next argument is
a value that was taken already. -/
def takeOptions (known : String) (skip : Bool) :
    List String → Act (List (Char × String) × List String)
  | [] => pure ([], [])
  | arg :: rest =>
    if skip then takeOptions known false rest
    else if arg = "--" then pure ([], rest)
    else match arg.toList with
      | '-' :: c :: cs =>
        match letters known rest.head? (c :: cs) with
        | .error (c, false) => unknownOption ("-" ++ String.singleton c)
        | .error (c, true) => do
          if (← Act.state).isLarge then do
            Act.complain s!"-{c}: option requires an argument"
            showUsage
          else Act.fail s!"No arg for -{c} option"
        | .ok (found, taken) => do
          let (more, rest) ← takeOptions known taken rest
          pure (found ++ more, rest)
      | _ => pure ([], arg :: rest)

def options (known : String) (args : List String) : Act (List (Char × String) × List String) :=
  takeOptions known false args

/-- A whole number that fits into 31 bits. -/
def number (arg : String) : Act Nat :=
  match Condition.integer? arg with
  | some n => if 0 ≤ n && n < Nat.pow 2 31 then pure n.toNat else Act.fail s!"Illegal number: {arg}"
  | none => Act.fail s!"Illegal number: {arg}"

/-- The first argument as an exit code, or the present status in its place. -/
def code (args : List String) : Act Nat := do
  let s ← Act.state
  match if s.isLarge then args.filter (· != "--") else args with
  | [] => pure (s.savedStatus.getD s.status)
  | arg :: more =>
    if !s.isLarge then number arg
    else match Condition.integer? arg with
      | some n =>
        if more.isEmpty then pure (n % 256).toNat
        else do
          Act.complain "too many arguments"
          Act.leave (.fault 1)
      | none => do
        Act.complain s!"{arg}: numeric argument required"
        Act.leave (if s.builtin = some "exit" then .exit 2 else .back 2)

def exit : Builtin := fun args => do Act.leave (.exit (← code args))

def giveBack : Builtin := fun args => do
  let s ← Act.state
  if s.isLarge && s.calls.isEmpty then do
    Act.complain "can only \x60return\x27 from a function or sourced script"
    Act.leave (.fault 2)
  else Act.leave (.back (← if args.isEmpty then pure s.status else code args))

/-- Ends or goes on with a loop, if there is one. -/
def jump (flow : Nat → Flow) : Builtin := fun args => do
  let s ← Act.state
  let n ← match args.head? with
    | some arg => number arg
    | none => pure 1
  if s.isLarge then
    if s.loops = 0 then do
      Act.complain "only meaningful in a \x60for\x27, \x60while\x27, or \x60until\x27 loop"
      Act.setStatus 0
    else if n = 0 then do
      Act.complain (args.headD "" ++ ": loop count out of range")
      Act.setStatus 1
      Act.leave (.leave s.loops)
    else do
      Act.setStatus 0
      Act.leave (flow (min n s.loops))
  else if n = 0 then Act.fail ("Illegal number: " ++ args.headD "")
  else do
    Act.setStatus 0
    if s.loops = 0 then pure () else Act.leave (flow (min n s.loops))

def shift : Builtin := fun args => do
  let n ← match args.head? with
    | some arg => number arg
    | none => pure 1
  let s ← Act.state
  if s.args.length < n then
    if s.isLarge then Act.setStatus 1 else Act.fail "can\x27t shift that many"
  else do
    Act.update fun s => s.setArgs (s.args.drop n)
    Act.setStatus 0

/-! ## Folders -/

/-- A path without dots as the shell sees it, from a folder on. -/
def cleaned (folder path : String) : String :=
  let whole := Path.join folder path
  let parts := (Path.parts whole).foldl (fun (done : List String) part =>
    if part = ".." then done.tail else part :: done) []
  let isDouble := whole.startsWith "//" && !whole.startsWith "///"
  (if isDouble then "//" else "/") ++ "/".intercalate parts.reverse

/-- Goes to a folder. Tells why that cannot be done. -/
def enter (physical : Bool) (path : String) : Act (Option OsError) := do
  let s ← Act.state
  let files ← Program.files
  let here ← Program.folder
  let clean := cleaned s.folder path
  let target := if physical then path else clean
  match files.lookup true here (if target.isEmpty then "." else target) with
  | .ok (place, .folder) => do
    let shown := Files.shown place
    Program.change fun pid k => k.changeProcess pid fun p => { p with folder := shown }
    let folder := if physical then shown else clean
    Act.assign "OLDPWD" s.folder
    Act.assign "PWD" folder
    Act.update fun s => { s with
      folder := folder
      stale := if s.isLarge then ∅ else .ofList (s.tracked.map Prod.fst)
      exported := (s.exported.insert "PWD").insert "OLDPWD" }
    pure none
  | .ok _ => pure (some .notDirectory)
  | .error e => pure (some e)

/-- The folders in which `cd` looks for a path. -/
def searchPlaces (s : State) (path : String) : List String :=
  let dotted := path == "." || path == ".." || path.startsWith "./" || path.startsWith "../"
  match s.parameter? "CDPATH" with
  | some folders =>
    if Path.isAbsolute path || dotted || folders.isEmpty then [path]
    else (folders.splitOn ":").map (fun folder =>
      if folder.isEmpty then path else folder ++ "/" ++ path) ++ [path]
  | none => [path]

/-- Goes to the first of the folders that there is. -/
def enterFirst (physical : Bool) (last : OsError) : List String → Act (Except OsError String)
  | [] => pure (.error last)
  | path :: rest => do
    match ← enter physical path with
    | none => pure (.ok path)
    | some e => enterFirst physical e rest

def cd : Builtin := fun args => do
  let (given, args) ← options (if (← Act.state).isLarge then "LPe@" else "LP") args
  let physical := (given.getLast?.map (·.1)) == some 'P'
  let s ← Act.state
  let back := args.head? == some "-"
  if s.isLarge && 1 < args.length then Act.fail "too many arguments"
  else if s.isLarge && back && (s.parameter? "OLDPWD").isNone then Act.fail "OLDPWD not set"
  else if s.isLarge && args.isEmpty && (s.parameter? "HOME").isNone then Act.fail "HOME not set"
  else do
    let path := match args with
      | [] => (s.parameter? "HOME").getD ""
      | "-" :: _ => (s.parameter? "OLDPWD").getD ""
      | path :: _ => path
    match ← enterFirst physical .notFound (searchPlaces s path) with
    | .ok found => do
      if back || found != path then Act.print 1 ((← Act.state).folder ++ "\n")
      Act.setStatus 0
    | .error e =>
      if s.isLarge then Act.fail s!"{path}: {e.reason}" else Act.fail s!"can\x27t cd to {path}"

def pwd : Builtin := fun args => do
  let (given, _) ← options "LP" args
  let folder ← if (given.getLast?.map (·.1)) == some 'P' then Program.folder
    else pure (← Act.state).folder
  Act.print 1 (folder ++ "\n")
  Act.setStatus 0

/-- Permissions in letters. -/
def modeLetters (mode : Nat) : String :=
  let one (who : String) (bits : Nat) : String :=
    who ++ "=" ++ String.join ([(4, "r"), (2, "w"), (1, "x")].map fun p =>
      if bits &&& p.1 != 0 then p.2 else "")
  ",".intercalate [one "u" (mode / 64 % 8), one "g" (mode / 8 % 8), one "o" (mode % 8)]

/-- The permissions after changes in letters as the plain dialect takes them. `who` are the ones
that the change is about. -/
def changedModes? (fuel before new who : Nat) (cs : List Char) : Option Nat :=
  match fuel, cs with
  | 0, _ => none
  | _, [] => some new
  | fuel + 1, cs =>
    let whoLetters := cs.takeWhile fun c => ['a', 'u', 'g', 'o'].contains c
    let who := whoLetters.foldl (fun who c => who ||| (match c with
      | 'a' => 0o111
      | 'u' => 0o100
      | 'g' => 0o010
      | _ => 0o001)) who
    let who := if who = 0 then 0o111 else who
    match cs.drop whoLetters.length with
    | [] => none
    | op :: rest =>
      if !(['=', '+', '-'].contains op) then none
      else
        let letters := rest.takeWhile fun c => ['r', 'w', 'x', 'u', 'g', 'o', 'X', 's'].contains c
        let bits := letters.foldl (fun bits c => bits ||| (match c with
          | 'r' => 4
          | 'w' => 2
          | 'x' => 1
          | 'u' => before / 64
          | 'g' => before / 8
          | 'o' => before
          | 'X' => if before &&& 0o111 != 0 then 1 else 0
          | _ => 0)) 0
        let bits := (bits % 8) * who
        let kept := new - (new &&& bits)
        let new := if op = '-' then kept
          else if op = '=' then bits ||| (new - (new &&& (who * 7)))
          else new ||| bits
        match rest.drop letters.length with
        | [] => some new
        | ',' :: rest => changedModes? fuel before new 0 rest
        | c :: rest =>
          if ['=', '+', '-'].contains c then changedModes? fuel before new who (c :: rest) else none

def umask : Builtin := fun args => do
  let s ← Act.state
  let (given, args) ← options (if s.isLarge then "Sp" else "S") args
  let mask ← Program.look fun pid k => ((k.process? pid).map (·.mask)).getD 0
  let set (mask : Nat) : Act Unit := do
    Program.change fun pid k => k.changeProcess pid fun p => { p with mask := mask % 512 }
    Act.setStatus 0
  match args with
  | [] => do
    let octal := Nat.toDigits 8 mask
    let symbolic := given.any fun g => g.1 = 'S'
    let start := if given.any fun g => g.1 = 'p' then
      if symbolic then "umask -S " else "umask " else ""
    Act.print 1 (start ++ (if symbolic then modeLetters (0o777 &&& (0o777 ^^^ mask))
      else String.ofList (List.replicate (4 - octal.length) '0' ++ octal)) ++ "\n")
    Act.setStatus 0
  | text :: _ =>
    if text.toList.head?.any Char.isDigit then
      if text.all Format.isOctal then set (Format.valueOf 8 text.toList)
      else if s.isLarge then Act.fail s!"{text}: octal number out of range"
      else Act.fail s!"Illegal number: {text}"
    else match if s.isLarge then Machine.Mode.change? text (0o777 &&& (0o777 ^^^ mask))
        else let modes := 0o777 &&& (0o777 ^^^ mask)
          changedModes? (text.length + 1) modes modes 0 text.toList with
      | some mode => set (0o777 ^^^ (mode &&& 0o777))
      | none =>
        if s.isLarge then Act.fail s!"\x60{text}\x27: invalid symbolic mode operator"
        else Act.fail s!"Illegal mode: {text}"

/-! ## Output -/

def echo : Builtin := fun args => do
  let s ← Act.state
  Act.print 1 (if s.isLarge then Format.largeEcho (s.has "xpg_echo") args
    else Format.shellEcho args)
  Act.setStatus 0

def printf : Builtin := fun args => do
  let s ← Act.state
  let (given, args) ← options (if s.isLarge then "v:" else "") args
  match args with
  | [] => if s.isLarge then showUsage else Act.fail "usage: printf format [arg ...]"
  | format :: args => do
    let d : Format.Dialect := if s.isLarge then .large else .shell
    let o := Format.printf d format (args.length + 1) { args := args }
    for fault in o.faults do
      Act.complain fault
    match given.getLast? with
    | some (_, name) => Act.assign name o.text
    | none => Act.print 1 o.text
    match o.broken with
    | some message => Act.fail message
    | none => Act.setStatus (if o.failed then 1 else 0)

/-- Whether the condition of the arguments holds, as a status. -/
def test : Builtin := fun args => do
  let s ← Act.state
  let d : Format.Dialect := if s.isLarge then .large else .shell
  let view : Condition.View := { ← Condition.view d with
    isSet := fun name => (s.parameter? name).isSome
    isOn := s.has }
  match Condition.eval view args with
  | .ok b => Act.setStatus (if b then 0 else 1)
  | .error message => Act.failWith 2 message

def bracket : Builtin := fun args => do
  if args.getLast? = some "]" then test args.dropLast
  else Act.failWith 2 (if (← Act.state).isLarge then "missing \x60]\x27" else "missing ]")

def times : Builtin := fun _ => do
  let line := if (← Act.state).isLarge then "0m0.001s 0m0.001s\n" else "0m0.000000s 0m0.000000s\n"
  Act.print 1 (line ++ line)
  Act.setStatus 0

end Builtin

end HostFleet.Shell
