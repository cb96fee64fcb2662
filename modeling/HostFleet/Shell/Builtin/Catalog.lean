import HostFleet.Machine.Executable
import HostFleet.Shell.Builtin.Input
import HostFleet.Shell.Builtin.Jobs

/-!
# The built-in commands by name

Which built-in commands each dialect has, which of them are special, and what a name stands for
where a command is expected.
-/

namespace HostFleet.Shell.Builtin

open Machine

def succeed : Builtin := fun _ => Act.setStatus 0

def refuse : Builtin := fun _ => Act.setStatus 1

/-- The commands of both dialects that do not lead to other commands. -/
def common : List (String × Builtin) :=
  [(":", succeed), ("true", succeed), ("false", refuse), ("echo", echo), ("printf", printf),
    ("test", test), ("[", bracket), ("pwd", pwd), ("exit", exit), ("return", giveBack),
    ("break", jump .leave), ("continue", jump .again), ("cd", cd), ("export", exportNames),
    ("readonly", readonly), ("unset", unset), ("set", setOptions), ("shift", shift),
    ("read", read), ("local", makeLocal), ("wait", wait), ("trap", trap), ("umask", umask),
    ("jobs", jobs), ("alias", makeAlias), ("unalias", unalias), ("getopts", getopts),
    ("kill", kill), ("times", times), ("ulimit", ulimit), ("fg", foreground), ("bg", foreground)]

def onlyPlain : List (String × Builtin) := [("chdir", cd)]

def onlyLarge : List (String × Builtin) :=
  [("declare", declare false), ("typeset", declare false), ("let", calculate), ("shopt", shopt),
    ("mapfile", mapFile), ("readarray", mapFile), ("disown", succeed), ("enable", succeed),
    ("history", succeed), ("complete", succeed), ("compopt", succeed), ("bind", succeed),
    ("suspend", succeed)]

/-- The commands that lead to other commands, or to what can be run. -/
def leading (d : Dialect) : List String :=
  ["eval", "exec", ".", "command", "type", "hash"]
    ++ if d = .large then ["source", "builtin", "caller", "pushd", "popd", "dirs"] else []

def find? (d : Dialect) (name : String) : Option Builtin :=
  (common.lookup name).or ((if d = .large then onlyLarge else onlyPlain).lookup name)

def isBuiltin (d : Dialect) (name : String) : Bool :=
  (find? d name).isSome || (leading d).contains name

/-- The commands whose errors end the shell, and whose assignments stay. -/
def isSpecial (d : Dialect) (name : String) : Bool :=
  d = .plain && ruling.contains name

/-- The commands whose arguments can be assignments. -/
def takesAssignments (d : Dialect) (name : String) : Bool :=
  ["export", "readonly", "local", "alias"].contains name
    || (d = .large && ["declare", "typeset"].contains name)

/-- Carries a built-in command out under its name. -/
def named {α : Type} (name : String) (a : Act α) : Act α := do
  let before := (← Act.state).builtin
  Act.update fun s => { s with builtin := some name }
  let result ← Act.attempt a
  Act.update fun s => { s with builtin := before }
  Act.resume result

/-- Carries a built-in command out under its name, and complains if its output was lost. -/
def audible (name : String) (a : Act Unit) : Act Unit :=
  named name do
    Act.update ({ · with refusal := none })
    a
    let s ← Act.state
    match s.refusal with
    | none => pure ()
    | some e => do
      Act.update ({ · with refusal := none })
      Act.refuse (if s.isLarge then "write error: " ++ e.reason else s!"{name}: I/O error")
        (s.status ||| 1)

/-! ## What names stand for -/

def reservedWords (d : Dialect) : List String :=
  reserved ++ if d = .large then ["[[", "]]", "function", "select", "time", "coproc"] else []

/-- The path at which a command is found. In the plain dialect, an empty name leads to the folders
of the search path. -/
def pathOf? (searchPath : Option String) (name : String) : Act (Except OsError String) := do
  let files ← Program.files
  let folder ← Program.folder
  let s ← Act.state
  let path := (searchPath.or (s.parameter? "PATH")).getD Executable.usualPath
  pure <| if s.isLarge then Executable.search files folder path name
    else Executable.find files folder .notFound (Executable.plainCandidates path name)

/-- What a name stands for: in short, and at length. -/
def meaning? (searchPath : Option String) (name : String) : Act (Option (String × String)) := do
  let s ← Act.state
  let is (kind : String) : Option (String × String) := some (name, name ++ " is " ++ kind)
  match s.aliases[name]? with
  | some text =>
    if s.isLarge then
      if s.has "expand_aliases" then
        pure (some ("alias " ++ name ++ "=" ++ ShellWord.single text,
          s!"{name} is aliased to \x60{text}\x27"))
      else other s is
    else if reserved.contains name then pure (is "a shell keyword")
    else pure (some ("alias " ++ name ++ "=" ++ ShellWord.paired text,
      s!"{name} is an alias for {text}"))
  | none => other s is
where
  other (s : State) (is : String → Option (String × String)) : Act (Option (String × String)) := do
    if (reservedWords s.dialect).contains name then pure (is "a shell keyword")
    else if s.functions.contains name then
      pure (is (if s.isLarge then "a function" else "a shell function"))
    else if isBuiltin s.dialect name then
      pure (is (if isSpecial s.dialect name then "a special shell builtin" else "a shell builtin"))
    else match ← pathOf? searchPath name with
      | .ok path =>
        if name.contains '/' && s.isLarge then pure (some (path, name ++ " is " ++ path))
        else do
          let known := !name.contains '/' && (s.tracked.lookup name).isSome
          if !known && !name.contains '/' && !s.isLarge && searchPath.isNone then
            Act.update fun s => s.track name path
          pure (some (path, if !known then name ++ " is " ++ path
            else if s.isLarge then name ++ " is hashed (" ++ path ++ ")"
            else name ++ " is a tracked alias for " ++ path))
      | .error _ => pure none

/-- Tells what names stand for as commands. -/
def describe (atLength : Bool) (searchPath : Option String) (names : List String) : Act Unit := do
  let large := (← Act.state).isLarge
  let mut status := 0
  for name in names do
    match ← meaning? searchPath name with
    | some (short, long) => Act.print 1 ((if atLength then long else short) ++ "\n")
    | none => do
      if atLength then
        if large then Act.complain s!"{name}: not found" else Act.print 1 s!"{name}: not found\n"
      status := if large then 1 else 127
  Act.setStatus status

/-- The kind of a command in one word. -/
def kindOf (name : String) : Act (Option String) := do
  let s ← Act.state
  if s.has "expand_aliases" && s.aliases.contains name then pure (some "alias")
  else if (reservedWords s.dialect).contains name then pure (some "keyword")
  else if s.functions.contains name then pure (some "function")
  else if isBuiltin s.dialect name then pure (some "builtin")
  else do pure ((← pathOf? none name).toOption.map fun _ => "file")

def type : Builtin := fun args => do
  let s ← Act.state
  if s.isLarge then do
    let (given, names) ← options "afptP" args
    let has (c : Char) : Bool := given.any fun g => g.1 = c
    if has 't' then do
      let mut status := 0
      for name in names do
        match ← kindOf name with
        | some kind => Act.print 1 (kind ++ "\n")
        | none => status := 1
      Act.setStatus status
    else if has 'p' || has 'P' then do
      let mut status := 0
      for name in names do
        let kind ← kindOf name
        match ← pathOf? none name with
        | .ok path => if kind == some "file" || has 'P' then Act.print 1 (path ++ "\n")
        | .error _ => if kind.isNone || has 'P' then status := 1
      Act.setStatus status
    else describe true none names
  else describe true none args

/-- Lists where commands were found, or forgets it. -/
def hash : Builtin := fun args => do
  let s ← Act.state
  let (given, names) ← options (if s.isLarge then "rdltp:" else "r") args
  if given.any fun g => g.1 = 'r' then do
    Act.update fun s => { s with tracked := [] }
    Act.setStatus 0
  else if names.isEmpty then do
    if s.isLarge then
      if s.tracked.isEmpty then Act.print 1 "hash: hash table empty\n"
      else Act.print 1 ("hits\tcommand\n" ++ String.join (s.tracked.map fun t =>
        "   1\t" ++ t.2 ++ "\n"))
    else Act.print 1 (String.join ((byBucket 31 s.tracked).map fun t =>
      t.2 ++ (if s.stale.contains t.1 then "*" else "") ++ "\n"))
    Act.setStatus 0
  else do
    let mut status := 0
    for name in names do
      let isKnown := isBuiltin s.dialect name || s.functions.contains name
      match ← pathOf? none name with
      | .ok path =>
        if !isKnown && !name.contains '/' then Act.update fun s =>
          { s with tracked := s.tracked.filter (·.1 != name) }.track name path
      | .error e =>
        if isKnown || (name.contains '/' && !s.isLarge) then pure ()
        else do
          Act.complain (name ++ ": "
            ++ if e = .permissionDenied && !s.isLarge then e.reason else "not found")
          status := 1
    Act.setStatus status

end HostFleet.Shell.Builtin
