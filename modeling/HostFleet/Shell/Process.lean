import HostFleet.Shell.Builtin.Catalog

/-!
# Shells as processes

How a shell splits processes off, waits for them, passes its variables on and begins.
-/

namespace HostFleet.Shell

open Machine

/-- The state of a copy of the shell: of its traps it keeps what it ignores. -/
def State.copied (s : State) : State :=
  { s with
    isCopy := true
    reached := 1
    traps := s.traps.filter fun t => t.2.isEmpty
    jobs := []
    savedStatus := none }

/-- Whether something is done at a signal or at the end. -/
def State.hasTraps (s : State) : Bool := s.traps.any fun t => !t.2.isEmpty

/-- The exported variables, bucket by bucket, and in each in the order in which they came to be. -/
def State.environment (s : State) : Environment :=
  let ordered := s.variableOrder.filter s.exported.contains
  let names := ordered ++ s.exported.toList.filter fun name => !ordered.contains name
  Builtin.byBucket 39 (names.filterMap fun name =>
    (s.stored? name).map fun value => (name, value))

namespace Act

/-- An act as a program of its own, which ends with the number that the act gives. -/
def toProgram (a : Act Nat) (s : State) : Program Nat := fun next =>
  a s fun r _ => match r with
    | .ok n => next n
    | .error (.exit n) => next n
    | .error (.fault n) => next n
    | .error _ => next 2

/-- Splits a copy of the shell off, which begins with chosen descriptors. -/
def split (choose : Descriptors → Descriptors) (child : Act Nat) : Act Nat := fun s next =>
  let begun : Act Nat := do
    Program.change fun pid k => k.changeProcess pid fun p => { p with caught := [], pending := [] }
    child
  .fork choose ((begun.toProgram s.copied).toProc) fun pid => next (.ok pid) s

/-- What is said about a process that a signal ended. -/
def announce (pid signal : Nat) : Act Unit := do
  let s ← state
  if signal = 2 || signal = 13 then pure ()
  else if s.isLarge then complain s!"{Utility.padLeft 5 (toString pid)} {signalText signal}"
  else print 2 (signalText signal ++ "\n")

/-- Waits for processes and gives the statuses they ended with. -/
def collect : List Nat → Act (List Nat)
  | [] => pure []
  | pid :: rest => do
    let status ← match ← Program.waitFor pid with
      | some (.killed signal) => do
        announce pid signal
        pure (128 + signal)
      | some (.exited code) => pure code
      | none => pure 127
    pure (status :: (← collect rest))

/-- The number of the next job. In the plain dialect it is the least that no job has, and a job that
has ended and was waited for leaves its number to it. -/
def takeNumber : Act Nat := do
  let s ← state
  let isOver (j : Job) : Bool := j.ending.isSome && (j.isWaited || s.isLarge)
  let taken := (s.jobs.filter fun j => !isOver j).map (·.number)
  if s.isLarge then pure (taken.foldl max 0 + 1)
  else
    let number := ((List.range (taken.length + 1)).map (· + 1)).find? fun n => !taken.contains n
    let number := number.getD 1
    update fun s => { s with jobs := s.jobs.filter fun j => j.number != number }
    pure number

/-- Notes a new job. -/
def addJob (number : Nat) (pids : List Nat) (text : String) : Act Unit :=
  update fun s => { s with
    jobs := { number := number, pids := pids, text := text } :: s.jobs
    lastJob := pids.getLast? }

/-- Connects a descriptor with a stream that gives nothing. -/
def readNothing : Act Unit :=
  Program.change fun pid k =>
    let (file, k) := k.newOpen { stream := .null }
    k.connect pid 0 file

/-- Does not let a process end at the keys that interrupt a program. -/
def ignoreKeys : Act Unit :=
  Program.change fun pid k => k.changeProcess pid fun p =>
    { p with ignored := 2 :: 3 :: p.ignored }

/-- Makes a pipe, and lets a descriptor of the process read it. -/
def openPipe (fd : Nat → Kernel → Nat) : Act (Nat × Nat) :=
  Program.access fun pid k =>
    let fd := fd pid k
    let ((r, w), k) := k.newPipe
    ((fd, w), k.connect pid fd r)

/-- Makes a pipe whose end to read from is put aside. -/
def putPipeAside : Act (Nat × Nat) :=
  Program.access fun pid k =>
    let (ends, k) := k.newPipe
    (ends, k.changeProcess pid fun p =>
      { p with held := match p.held with
        | aside :: held => (aside ++ [(p.held.length, ends.1)]) :: held
        | [] => [[(0, ends.1)]] })

/-- Begins or ends putting pipes aside. -/
def putAside : Act Unit :=
  Program.change fun pid k => k.changeProcess pid fun p => { p with held := [] :: p.held }

def dropAside : Act Unit :=
  Program.change fun pid k => k.changeProcess pid fun p => { p with held := p.held.tail }

/-- Takes the next signal that the shell has to act on. -/
def nextSignal : Act (Option Nat) :=
  Program.access fun pid k =>
    match (k.process? pid).map (·.pending) with
    | some (signal :: rest) =>
      (some signal, k.changeProcess pid fun p => { p with pending := rest })
    | _ => (none, k)

end Act

/-! ## Beginning -/

/-- How a shell is called. -/
structure Invocation where
  /-- Whether the program is given as an argument. -/
  isGiven : Bool := false
  /-- Whether the program is the input even if there are arguments. -/
  fromInput : Bool := false
  state : State
  args : List String := []
  /-- What is wrong with the call, and the status for it. -/
  fault : Option (String × Nat) := none

namespace Invocation

/-- Takes the letters of an argument. Whether the next argument was taken as a name. -/
def letters (i : Invocation) (on : Bool) (next : Option String) : List Char → Invocation × Bool
  | [] => (i, false)
  | c :: rest =>
    let known := if i.state.isLarge then State.largeOptionLetters else State.optionLetters
    if c = 'c' then letters { i with isGiven := true } on next rest
    else if c = 's' then
      letters { i with fromInput := true, state := i.state.setOption on "stdin" } on next rest
    else if c = 'l' || (i.state.isLarge && c = 'i') then letters i on next rest
    else if c = 'o' || (c = 'O' && i.state.isLarge) then
      match next with
      | none => (i, true)
      | some name =>
        let names := if i.state.isLarge then
            if c = 'o' then State.largeOptionNames else Builtin.shellOptions.map Prod.fst
          else State.optionNames
        let i := if names.contains name then { i with state := i.state.setOption on name }
          else { i with fault := some (if i.state.isLarge then s!"{name}: invalid option name"
            else s!"Illegal option -o {name}", 2) }
        ((letters i on next rest).1, true)
    else match known.lookup c with
      | some name => letters { i with state := i.state.setOption on name } on next rest
      | none => ({ i with fault := some (if i.state.isLarge
          then String.ofList [if on then '-' else '+', c] ++ ": invalid option"
          else s!"Illegal option -{c}", 2) }, false)

/-- Takes the options at the front. -/
def take (i : Invocation) (skip : Bool) : List String → Invocation
  | [] => { i with args := [] }
  | arg :: rest =>
    if skip then take i false rest
    else if arg = "--" || arg = "-" then { i with args := rest }
    else match arg.toList with
      | '-' :: '-' :: _ =>
        if i.state.isLarge then
          if ["--norc", "--noprofile", "--posix", "--login", "--noediting"].contains arg then
            take i false rest
          else { i with fault := some (s!"{arg}: invalid option", 2) }
        else { i with fault := some ("Illegal option --", 2) }
      | '-' :: cs =>
        let (i, taken) := letters i true rest.head? cs
        take i taken rest
      | '+' :: cs =>
        let (i, taken) := letters i false rest.head? cs
        take i taken rest
      | _ => { i with args := arg :: rest }

end Invocation

/-- The variables that a large shell sets by itself. -/
def largeVariables : List (String × String) :=
  [("BASH", "/bin/bash"), ("BASH_VERSION", "5.2.15(1)-release"), ("HOSTTYPE", "x86_64"),
    ("MACHTYPE", "x86_64-pc-linux-gnu"), ("OSTYPE", "linux-gnu"), ("UID", "0"), ("EUID", "0"),
    ("OPTERR", "1"), ("OPTIND", "1"), ("PS4", "+ "), ("IFS", " \t\n"), ("TERM", "dumb"),
    ("HOSTNAME", "localhost")]

def plainVariables : List (String × String) :=
  [("OPTIND", "1"), ("PS1", "# "), ("PS2", "> "), ("PS4", "+ "), ("IFS", " \t\n")]

/-- The state in which a shell begins. -/
def State.initial (d : Dialect) (name : String) (pid parent : Nat) (folder : String)
    (files : Files) (env : Environment) : State :=
  let given := env.filter fun v => isName v.1 && v.1 != "IFS"
  let vars : NameMap String := Std.ExtTreeMap.ofList
    ((if d = .large then largeVariables else plainVariables) ++
      [("PATH", Executable.usualPath), ("PPID", toString parent)])
  let vars := given.foldl (fun vars v =>
    if v.1 = "OPTIND" || v.1 = "PPID" then vars else vars.insert v.1 v.2) vars
  let exported : NameSet := Std.ExtTreeSet.ofList (given.map Prod.fst)
  let place (path : String) : Option Place := (files.locate true "/" path).toOption
  let folder := match vars["PWD"]? with
    | some path => if Path.isAbsolute path && place path == place folder then path else folder
    | none => folder
  let vars := vars.insert "PWD" folder
  let exported := exported.insert "PWD"
  let (vars, exported) := if d = .plain then (vars, exported) else
    let level := match vars["SHLVL"]? with
      | some text => text.toNat?.getD 0
      | none => 0
    (vars.insert "SHLVL" (toString (level + 1)), (exported.insert "SHLVL").insert "OLDPWD")
  { dialect := d
    name := name
    vars := vars
    exported := exported
    variableOrder := ("PATH" :: (given.map Prod.fst).filter (· != "PATH")) ++ ["PWD"]
    options := if d = .large then ["braceexpand", "hashall", "interactive-comments"]
      ++ Builtin.shellOptions.filterMap (fun o => if o.2 then some o.1 else none) else []
    pid := pid
    parent := parent
    folder := folder }

end HostFleet.Shell
