import HostFleet.Shell.Builtin.Basic

/-!
# Variables and options

The built-in commands that set, mark, hide and list variables, and those that switch options of
the shell.
-/

namespace HostFleet.Shell.Builtin

open Machine

/-- A name that cannot be a variable. -/
def badName {α : Type} (arg name : String) : Act α := do
  if (← Act.state).isLarge then Act.fail s!"\x60{arg}\x27: not a valid identifier"
  else Act.fail s!"{name}: bad variable name"

/-- How the large shell writes the value of a variable down. -/
def definition (s : State) (name : String) : String :=
  match s.arrays[name]? with
  | some a =>
    name ++ "=(" ++ " ".intercalate (a.items.map fun i =>
      "[" ++ i.1 ++ "]=" ++ ShellWord.double i.2) ++ (if a.isKeyed then " )" else ")")
  | none =>
    match s.vars[name]? with
    | some value => name ++ "=" ++ ShellWord.double value
    | none => name

/-- The marks of a variable, as options of `declare`. -/
def markLetters (s : State) (name : String) : String :=
  let array := match s.arrays[name]? with
    | some a => if a.isKeyed then "A" else "a"
    | none => ""
  let form := match s.forms[name]? with
    | some c => String.singleton c
    | none => ""
  let letters := array ++ (if form = "i" then "i" else "")
    ++ (if (s.references[name]?).isSome then "n" else "")
    ++ (if s.frozen.contains name then "r" else "")
    ++ (if s.exported.contains name then "x" else "") ++ (if form = "i" then "" else form)
  "-" ++ if letters.isEmpty then "-" else letters

def declaration (s : State) (name : String) : String :=
  "declare " ++ markLetters s name ++ " " ++ definition s name ++ "\n"

/-- Variables that are known by name, though some of them have no value. -/
def names (s : State) : List String :=
  (Std.ExtTreeSet.ofList (s.vars.keys ++ s.arrays.keys ++ s.exported.toList ++ s.frozen.toList)
    : NameSet).toList

/-- Lists the marked variables. -/
def listMarked (command : String) (marked : NameSet) : Act Unit := do
  let s ← Act.state
  let line (name : String) : String :=
    if s.isLarge then declaration s name
    else match s.vars[name]? with
      | some value => command ++ " " ++ name ++ "=" ++ ShellWord.paired value ++ "\n"
      | none => command ++ " " ++ name ++ "\n"
  Act.print 1 (String.join (marked.toList.map line))
  Act.setStatus 0

/-- Sets the variables and marks their names. -/
def marking (command : String) (marked : State → NameSet) (mark : State → NameSet → State) :
    Builtin := fun args => do
  let large := (← Act.state).isLarge
  let (given, args) ← options (if large then "aAfnp" else "p") args
  let lists := given.any fun g => g.1 = 'p'
  let takes := given.any fun g => g.1 = 'n'
  if args.isEmpty || (lists && !large) then listMarked command (marked (← Act.state))
  else do
    let mut status := 0
    for arg in args do
      let (front, value) := Utility.splitAssignment arg
      let adds := large && front.endsWith "+"
      let name := if adds then String.ofList front.toList.dropLast else front
      if !isName name then
        if large then do
          Act.complain s!"\x60{arg}\x27: not a valid identifier"
          status := 1
        else badName arg name
      else do
        match value with
        | some value => Act.assignText name adds value
        | none => pure ()
        Act.update fun s =>
          let s := { s with variableOrder := if s.variableOrder.contains name then s.variableOrder
            else s.variableOrder ++ [name] }
          mark s (if takes then (marked s).erase name else (marked s).insert name)
    Act.setStatus status

def exportNames : Builtin :=
  marking "export" State.exported fun s names => { s with exported := names }

def readonly : Builtin :=
  marking "readonly" State.frozen fun s names => { s with frozen := names }

/-- Takes a variable or an item of an array away. -/
def unsetName (arg : String) : Act Unit := do
  let s ← Act.state
  let name := String.ofList (arg.toList.takeWhile (· != '['))
  let key := String.ofList ((arg.toList.drop (name.length + 1)).dropLast)
  let name := s.resolve (if s.isLarge then name else (Utility.splitAssignment name).1)
  if !isName name then if s.isLarge then pure () else badName arg arg
  else if s.frozen.contains name then
    Act.fail (name ++ if s.isLarge then ": cannot unset: readonly variable" else ": is read only")
  else if s.isLarge && arg != name && arg.endsWith "]" then do
    let key ← Act.keyOf name key
    Act.changeArray name (·.erase key)
  else Act.update fun s => { s with
    vars := s.vars.erase name
    variableOrder := s.variableOrder.filter (· != name)
    arrays := s.arrays.erase name
    forms := s.forms.erase name
    exported := s.exported.erase name }

def unset : Builtin := fun args => do
  let large := (← Act.state).isLarge
  let (given, args) ← options (if large then "vfn" else "vf") args
  let kind := (given.getLast?).map (·.1)
  for arg in args do
    if kind = some 'f' then Act.update fun s => { s with functions := s.functions.erase arg }
    else if kind = some 'n' then
      Act.update fun s => { s with references := s.references.erase arg }
    else
      let s ← Act.state
      if large && kind.isNone && !(s.vars.contains arg || s.arrays.contains arg)
          && s.functions.contains arg then
        Act.update fun s => { s with functions := s.functions.erase arg }
      else unsetName arg
  Act.setStatus 0

/-! ## Own variables of functions -/

/-- What a name is now, to be put back later. -/
def saved (s : State) (name : String) : Saved :=
  { name := name, value := s.vars[name]?, array := s.arrays[name]?,
    wasExported := s.exported.contains name }

/-- Makes a name the own one of the running function. -/
def keep (name : String) : Act Unit := do
  let s ← Act.state
  match s.locals with
  | [] => pure ()
  | own :: outer =>
    let kept : Saved := if name = "-" then ⟨"-", some (",".intercalate s.options), none, false⟩
      else saved s name
    if own.any fun o => o.name = name then pure ()
    else Act.update fun s => { s with locals := (kept :: own) :: outer }

/-- Puts a name back to what it was. -/
def putBack (s : State) (o : Saved) : State :=
  if o.name = "-" then { s with options := ((o.value.getD "").splitOn ",").filter (· != "") }
  else
    let vars := match o.value with
      | some value => s.vars.insert o.name value
      | none => s.vars.erase o.name
    let arrays := match o.array with
      | some a => s.arrays.insert o.name a
      | none => s.arrays.erase o.name
    { s with
      vars := vars
      arrays := arrays
      exported := if o.wasExported then s.exported.insert o.name else s.exported.erase o.name
      tracked := if o.name = "PATH" then [] else s.tracked }

/-- Puts back what the innermost function has made its own. -/
def endLocals (s : State) : State :=
  match s.locals with
  | [] => s
  | own :: outer =>
    own.foldl (fun s o =>
      let s := putBack s o
      { s with
        forms := if s.isLarge then s.forms.erase o.name else s.forms
        references := s.references.erase o.name
        frozen := if s.isLarge then s.frozen.erase o.name else s.frozen })
      { s with locals := outer }

/-- Gives a name the marks that options of `declare` stand for. -/
def applyMark (s : State) (name : String) (on : Bool) : Char → State
  | 'x' => { s with
      exported := if on then s.exported.insert name else s.exported.erase name }
  | 'r' => { s with frozen := if on then s.frozen.insert name else s.frozen }
  | 'a' =>
    if s.arrays.contains name then s
    else { s with
      arrays := s.arrays.insert name { items := (s.vars[name]?.map fun v => ("0", v)).toList }
      vars := s.vars.erase name }
  | 'A' =>
    if s.arrays.contains name then s
    else { s with
      arrays := s.arrays.insert name { isKeyed := true }
      vars := s.vars.erase name }
  | 'n' => s
  | c =>
    if ['i', 'l', 'u'].contains c then
      { s with forms := if on then s.forms.insert name c else s.forms.erase name }
    else s

/-- The marks at the front of the arguments of `declare`, and the rest. -/
def declareOptions (args : List String) : List (Bool × Char) × List String :=
  match args with
  | [] => ([], [])
  | "--" :: rest => ([], rest)
  | arg :: rest =>
    match arg.toList with
    | '-' :: c :: cs =>
      let (more, rest) := declareOptions rest
      ((c :: cs).map (true, ·) ++ more, rest)
    | '+' :: c :: cs =>
      let (more, rest) := declareOptions rest
      ((c :: cs).map (false, ·) ++ more, rest)
    | _ => ([], arg :: rest)

/-- Declares the variables of the large shell. -/
def declare (isLocal : Bool) : Builtin := fun args => do
  let s ← Act.state
  let (given, args) := declareOptions args
  let has (c : Char) : Bool := given.contains (true, c)
  match given.find? fun g => !("aAfFgiIlnrtuxp".toList.contains g.2) with
  | some (_, c) => unknownOption ("-" ++ String.singleton c)
  | none =>
    if isLocal && s.locals.isEmpty then Act.fail "can only be used in a function"
    else if has 'f' || has 'F' then do
      let known := args.filter s.functions.contains
      if has 'F' then Act.print 1 (String.join ((if args.isEmpty then
          s.functions.keys.map ("declare -f " ++ ·) else known).map (· ++ "\n")))
      Act.setStatus (if known.length < args.length then 1 else 0)
    else if args.isEmpty then do
      let shown := (names s).filter fun name => given.all fun g =>
        g.2 = 'p' || (markLetters s name).contains g.2
      Act.print 1 (String.join (shown.map (declaration s)))
      Act.setStatus 0
    else if has 'p' then do
      let mut status := 0
      for name in args do
        if (names s).contains name then Act.print 1 (declaration s name)
        else do
          Act.complain s!"{name}: not found"
          status := 1
      Act.setStatus status
    else do
      let mut status := 0
      for arg in args do
        let (front, value) := Utility.splitAssignment arg
        let adds := front.endsWith "+"
        let name := if adds then String.ofList front.toList.dropLast else front
        if arg = "-" then keep "-"
        else if !isName name then do
          Act.complain s!"\x60{arg}\x27: not a valid identifier"
          status := 1
        else do
          if (isLocal || !(← Act.state).locals.isEmpty) && !has 'g' then do
            let before ← Act.state
            keep name
            let isNew := match before.locals with
              | own :: _ => !(own.any fun o => o.name = name)
              | [] => false
            if isNew then Act.update fun s => { s with
              vars := s.vars.erase name
              arrays := s.arrays.erase name }
          if has 'n' then
            match value with
            | some target => Act.update fun s =>
              { s with references := s.references.insert name target }
            | none => pure ()
          else do
            for (on, c) in given do
              if c != 'r' then Act.update fun s => applyMark s name on c
            match value with
            | some value =>
              if (← Act.state).arrays.contains name then Act.assignItem name "0" adds value
              else Act.assignText name adds value
            | none => pure ()
            if has 'r' then Act.update fun s => applyMark s name true 'r'
      Act.setStatus status

def makeLocal : Builtin := fun args => do
  let s ← Act.state
  if s.isLarge then declare true args
  else do
    if s.locals.isEmpty then Act.fail "not in a function"
    else do
      for arg in args do
        let (name, value) := Utility.splitAssignment arg
        if arg = "-" then keep "-"
        else if !isName name then badName arg name
        else do
          keep name
          match value with
          | some value => Act.assign name value
          | none => pure ()
      Act.setStatus 0

/-- Works out arithmetic expressions; the last one gives the status. -/
def calculate : Builtin := fun args => do
  if args.isEmpty then Act.fail "expression expected"
  else do
    for arg in args do
      let n ← Act.evaluate arg
      Act.setStatus (if n = 0 then 1 else 0)

/-! ## Options -/

/-- Lists the options with their state, or as the commands that set them. -/
def listOptions (asCommands : Bool) : Act Unit := do
  let s ← Act.state
  let names := if s.isLarge then State.largeOptionNames else State.optionNames
  let line (name : String) : String :=
    if asCommands then "set " ++ (if s.has name then "-o " else "+o ") ++ name ++ "\n"
    else if s.isLarge then
      Utility.padRight 15 name ++ "\t" ++ (if s.has name then "on" else "off") ++ "\n"
    else Utility.padRight 16 name ++ (if s.has name then "on" else "off") ++ "\n"
  if !asCommands && !s.isLarge then Act.print 1 "Current option settings\n"
  Act.print 1 (String.join (names.map line))

/-- Switches the option with this name. -/
def switchNamed (on : Bool) (name : String) : Act Unit := do
  let s ← Act.state
  let known := if s.isLarge then State.largeOptionNames else State.optionNames
  if known.contains name then Act.update (State.setOption · on name)
  else if s.isLarge then Act.failWith 2 s!"{name}: invalid option name"
  else Act.fail s!"Illegal option -o {name}"

/-- Switches the option with this letter. -/
def switchLetter (on : Bool) (c : Char) : Act Unit := do
  let s ← Act.state
  match (if s.isLarge then State.largeOptionLetters else State.optionLetters).lookup c with
  | some name => Act.update (State.setOption · on name)
  | none =>
    unknownOption (if s.isLarge then String.ofList [if on then '-' else '+', c]
      else "-" ++ String.singleton c)

/-- Switches the options of one argument; whether the next argument is a name that was taken. -/
def switchAll (on : Bool) (next : Option String) : List Char → Act Bool
  | [] => pure false
  | c :: rest => do
    let taken ← if c = 'o' then do
        match next with
        | some name => switchNamed on name
        | none => listOptions (!on)
        pure true
      else do
        switchLetter on c
        pure false
    pure ((← switchAll on next rest) || taken)

/-- Switches the options at the front of the arguments. The other arguments are missing if nothing
but options was given. -/
def switch (skip : Bool) : List String → Act (Option (List String))
  | [] => pure none
  | arg :: rest =>
    if skip then switch false rest
    else match arg.toList with
      | ['-', '-'] => pure (some rest)
      | ['-'] => do
        Act.update fun s => (s.setOption false "xtrace").setOption false "verbose"
        pure (if rest.isEmpty then none else some rest)
      | '-' :: c :: cs => do
        let taken ← switchAll true rest.head? (c :: cs)
        switch taken rest
      | '+' :: cs => do
        let taken ← switchAll false rest.head? cs
        switch taken rest
      | _ => pure (some (arg :: rest))

def setOptions : Builtin := fun args => do
  let s ← Act.state
  if args.isEmpty then
    let line (name : String) : Option String :=
      if s.isLarge then
        match s.arrays[name]?, s.vars[name]? with
        | none, some value => some (name ++ "=" ++ (if value.isEmpty then "" else
            ShellWord.listed value) ++ "\n")
        | none, none => none
        | some _, _ => some (definition s name ++ "\n")
      else (s.vars[name]?).map fun value => name ++ "=" ++ ShellWord.paired value ++ "\n"
    Act.print 1 (String.join ((names s).filterMap line))
  else do
    match ← switch false args with
    | some rest => Act.update (State.setArgs · rest)
    | none => pure ()
  Act.setStatus 0

/-- The options of the large shell that `shopt` switches, with those that are on at first. -/
def shellOptions : List (String × Bool) :=
  [("autocd", false), ("assoc_expand_once", false), ("cdable_vars", false), ("cdspell", false),
    ("checkhash", false), ("checkjobs", false), ("checkwinsize", true), ("cmdhist", true),
    ("compat31", false), ("compat32", false), ("compat40", false), ("compat41", false),
    ("compat42", false), ("compat43", false), ("compat44", false), ("complete_fullquote", true),
    ("direxpand", false), ("dirspell", false), ("dotglob", false), ("execfail", false),
    ("expand_aliases", false), ("extdebug", false), ("extglob", false), ("extquote", true),
    ("failglob", false), ("force_fignore", true), ("globasciiranges", true),
    ("globskipdots", true), ("globstar", false), ("gnu_errfmt", false), ("histappend", false),
    ("histreedit", false), ("histverify", false), ("hostcomplete", true), ("huponexit", false),
    ("inherit_errexit", false), ("interactive_comments", true), ("lastpipe", false),
    ("lithist", false), ("localvar_inherit", false), ("localvar_unset", false),
    ("login_shell", false), ("mailwarn", false), ("no_empty_cmd_completion", false),
    ("nocaseglob", false), ("nocasematch", false), ("noexpand_translation", false),
    ("nullglob", false), ("patsub_replacement", true), ("progcomp", true),
    ("progcomp_alias", false), ("promptvars", true), ("restricted_shell", false),
    ("shift_verbose", false), ("sourcepath", true), ("varredir_close", false),
    ("xpg_echo", false)]

def shopt : Builtin := fun args => do
  let (given, args) ← options "suqpo" args
  let has (c : Char) : Bool := given.any fun g => g.1 = c
  let s ← Act.state
  let known := if has 'o' then State.largeOptionNames else shellOptions.map Prod.fst
  let line (name : String) : String :=
    if has 'p' then
      let sign := match has 'o', s.has name with
        | true, true => "set -o "
        | true, false => "set +o "
        | false, true => "shopt -s "
        | false, false => "shopt -u "
      sign ++ name ++ "\n"
    else Utility.padRight 15 name ++ "\t" ++ (if s.has name then "on" else "off") ++ "\n"
  if args.isEmpty then do
    let wanted := known.filter fun name =>
      if has 's' then s.has name else if has 'u' then !s.has name else true
    if !has 'q' then Act.print 1 (String.join (wanted.map line))
    Act.setStatus 0
  else do
    let mut status := 0
    for name in args do
      if !known.contains name then do
        Act.complain s!"{name}: invalid shell option name"
        status := 1
      else if has 's' then Act.update (State.setOption · true name)
      else if has 'u' then Act.update (State.setOption · false name)
      else do
        if !has 'q' then Act.print 1 (line name)
        if !s.has name then status := 1
    Act.setStatus status

/-! ## Other names of commands -/

/-- The line about another name. -/
def aliasLine (s : State) (name text : String) : String :=
  if s.isLarge then "alias " ++ name ++ "=" ++ ShellWord.single text ++ "\n"
  else name ++ "=" ++ ShellWord.paired text ++ "\n"

def makeAlias : Builtin := fun args => do
  let s ← Act.state
  let (given, args) ← if s.isLarge then options "p" args else pure ([], args)
  if args.isEmpty || !given.isEmpty then
    let listed := if s.isLarge then s.aliases.toList
      else byBucket 39 (s.aliasOrder.filterMap fun name =>
        (s.aliases[name]?).map fun a => (name, a))
    Act.print 1 (String.join (listed.map fun a => aliasLine s a.1 a.2))
  Act.setStatus 0
  for arg in args do
    let (name, value) := match Utility.splitAssignment arg with
      | ("", some value) =>
        let (more, rest) := Utility.splitAssignment value
        ("=" ++ more, rest)
      | (name, value) => (name, value)
    match value with
    | some value => Act.update fun s => { s with
        aliases := s.aliases.insert name value
        aliasOrder := if s.aliases.contains name then s.aliasOrder
          else s.aliasOrder.filter (· != name) ++ [name] }
    | none =>
      match (← Act.state).aliases[name]? with
      | some text => Act.print 1 (aliasLine s name text)
      | none => do
        if s.isLarge then Act.complain s!"{name}: not found"
        else Act.print 2 s!"alias: {name} not found\n"
        Act.setStatus 1

def unalias : Builtin := fun args => do
  let s ← Act.state
  let forgetsAll := !s.isLarge && (args.headD "").startsWith "-a"
  let (given, args) ← if forgetsAll then do pure ([('a', "")], []) else options "a" args
  Act.setStatus 0
  if !given.isEmpty then Act.update fun s => { s with aliases := ∅ }
  else
    for name in args do
      if (← Act.state).aliases.contains name then
        Act.update fun s => { s with aliases := s.aliases.erase name }
      else do
        if s.isLarge then Act.complain s!"{name}: not found"
        else Act.print 2 s!"unalias: {name} not found\n"
        Act.setStatus 1

end HostFleet.Shell.Builtin
