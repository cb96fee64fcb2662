import HostFleet.Machine.Kernel
import HostFleet.Shell.Reader
import HostFleet.Text.ShellWord

/-!
# The state of a shell

A shell knows its variables, functions and options, what it was told to do at signals, and its
jobs. Files and descriptors belong to the kernel.
-/

namespace HostFleet.Shell

open Machine

/-- The values of a variable that has several: under numbers, or under any keys. -/
structure ArrayValue where
  isKeyed : Bool := false
  /-- Keys and values; numbers are in order. -/
  items : List (String × String) := []

namespace ArrayValue

def get? (a : ArrayValue) (key : String) : Option String := a.items.lookup key

/-- The items with one more, or with another value under its key. -/
def insert (a : ArrayValue) (key value : String) : ArrayValue :=
  if (a.items.lookup key).isSome then
    { a with items := a.items.map fun i => if i.1 == key then (key, value) else i }
  else if a.isKeyed then { a with items := a.items ++ [(key, value)] }
  else
    let n := key.toNat?.getD 0
    let before := a.items.takeWhile fun i => i.1.toNat?.getD 0 < n
    { a with items := before ++ (key, value) :: a.items.drop before.length }

def erase (a : ArrayValue) (key : String) : ArrayValue :=
  { a with items := a.items.filter fun i => i.1 != key }

/-- The number behind the last one. -/
def next (a : ArrayValue) : Nat :=
  match a.items.getLast? with
  | some i => i.1.toNat?.getD 0 + 1
  | none => 0

end ArrayValue

/-- Commands in the background. -/
structure Job where
  number : Nat
  pids : List Nat
  text : String
  /-- How its last process ended. -/
  ending : Option Ending := none
  /-- Whether a command has waited for it. -/
  isWaited : Bool := false

/-- What a function has made its own: names with what they were before. -/
structure Saved where
  name : String
  value : Option String
  array : Option ArrayValue := none
  wasExported : Bool

structure State where
  dialect : Dialect := .plain
  /-- The name under which messages appear. -/
  name : String
  /-- Whether the program was given as an argument. -/
  isGiven : Bool := false
  /-- The built-in command that is at work. Messages name it after the line. -/
  builtin : Option String := none
  /-- The line of the running command. -/
  line : Nat := 1
  /-- The line up to which the program was read. -/
  reached : Nat := 1
  args : List String := []
  vars : NameMap String := ∅
  arrays : NameMap ArrayValue := ∅
  /-- The variables whose values are numbers, or are in small or large letters. -/
  forms : NameMap Char := ∅
  /-- The variables that stand for others. -/
  references : NameMap String := ∅
  /-- The variables that programs are given. -/
  exported : NameSet := ∅
  /-- The variables that keep their values. -/
  frozen : NameSet := ∅
  functions : NameMap Command := ∅
  aliases : NameMap String := ∅
  /-- The names of variables, and of aliases, in the order in which they came to be. -/
  variableOrder : List String := []
  aliasOrder : List String := []
  /-- The options that are on, by name. -/
  options : List String := []
  status : Nat := 0
  /-- The status of the last commands whose output was taken, in the running command. -/
  outputStatus : Nat := 0
  /-- How the stages of the last pipeline ended. -/
  stageStatuses : List Nat := [0]
  /-- The number of the shell, which copies of it keep. -/
  pid : Nat
  parent : Nat := 4240
  lastJob : Option Nat := none
  jobs : List Job := []
  /-- How many loops the running command stands in. -/
  loops : Nat := 0
  /-- The functions and files that are running, innermost first. -/
  calls : List String := []
  folder : String := "/"
  /-- Whether the shell is a copy that was split off. -/
  isCopy : Bool := false
  /-- Why the output of the running command was refused, if it was. -/
  refusal : Option OsError := none
  /-- What is done at a signal, or at the end under the number 0. -/
  traps : List (Nat × String) := []
  /-- The former values of the variables that the running functions have made their own. -/
  locals : List (List Saved) := []
  /-- The argument that `getopts` takes next, and how far it has come inside the one before. -/
  optionIndex : Nat := 1
  optionOffset : Nat := 0
  /-- The status before the trap that is at work. -/
  savedStatus : Option Nat := none
  /-- Where commands were found, in the order in which they were. -/
  tracked : List (String × String) := []
  /-- The commands that were found from another folder. -/
  stale : NameSet := ∅
  /-- The limits that were set, and their uppermost values, by letter. -/
  limits : List (Char × Option Nat × Option Nat) := []
  /-- The numbers drawn so far. -/
  seed : Nat := 20240229
  begun : Nat := 0

namespace State

/-- Notes where a command was found. -/
def track (s : State) (name path : String) : State :=
  { s with
    tracked :=
      if (s.tracked.lookup name).isNone then s.tracked ++ [(name, path)]
      else s.tracked.map fun t => if t.1 == name then (name, path) else t
    stale := s.stale.erase name }

def isLarge (s : State) : Bool := s.dialect = .large

def has (s : State) (option : String) : Bool := s.options.contains option

def setOption (s : State) (on : Bool) (option : String) : State :=
  let others := s.options.filter (· != option)
  { s with options := if on then option :: others else others }

/-- The options with the letters by which they are known. -/
def optionLetters : List (Char × String) :=
  [('e', "errexit"), ('f', "noglob"), ('I', "ignoreeof"), ('i', "interactive"), ('m', "monitor"),
    ('n', "noexec"), ('s', "stdin"), ('x', "xtrace"), ('v', "verbose"), ('V', "vi"),
    ('E', "emacs"), ('C', "noclobber"), ('a', "allexport"), ('b', "notify"), ('u', "nounset"),
    ('p', "privileged")]

/-- All options by name. -/
def optionNames : List String := optionLetters.map Prod.snd ++ ["nolog", "debug"]

/-- The letters of the options of the large dialect. -/
def largeOptionLetters : List (Char × String) :=
  [('a', "allexport"), ('B', "braceexpand"), ('E', "errtrace"), ('T', "functrace"),
    ('h', "hashall"), ('H', "histexpand"), ('k', "keyword"), ('m', "monitor"), ('C', "noclobber"),
    ('n', "noexec"), ('f', "noglob"), ('b', "notify"), ('u', "nounset"), ('t', "onecmd"),
    ('P', "physical"), ('p', "privileged"), ('v', "verbose"), ('x', "xtrace"), ('e', "errexit")]

def largeOptionNames : List String :=
  (largeOptionLetters.map Prod.snd ++ ["emacs", "history", "ignoreeof", "interactive-comments",
    "nolog", "pipefail", "posix", "vi"]).mergeSort fun a b => decide (a ≤ b)

/-- The letters of the options that are on. -/
def flags (s : State) : String :=
  if s.isLarge then
    let order := "abefhikmnptuvxBCEHPT".toList
    String.ofList ((order.filter fun c => match largeOptionLetters.lookup c with
      | some name => s.has name
      | none => false) ++ if s.isGiven then ['c'] else [])
  else String.ofList ((optionLetters.reverse.filter fun p => s.has p.2).map Prod.fst)

def setVariable (s : State) (name value : String) : State :=
  match s.arrays[name]? with
  | some a => { s with arrays := s.arrays.insert name (a.insert "0" value) }
  | none =>
    { s with
      vars := s.vars.insert name value
      variableOrder :=
        if s.vars.contains name || s.variableOrder.contains name then s.variableOrder
        else s.variableOrder ++ [name]
      exported := if s.has "allexport" then s.exported.insert name else s.exported
      tracked := if name = "PATH" then [] else s.tracked
      optionIndex := if name = "OPTIND" then max 1 (value.toNat?.getD 1) else s.optionIndex
      optionOffset := if name = "OPTIND" then 0 else s.optionOffset }

/-- Other arguments, which `getopts` begins anew with. -/
def setArgs (s : State) (args : List String) : State :=
  { s with args := args, optionIndex := 1, optionOffset := 0 }

def stored? (s : State) (name : String) : Option String :=
  match s.arrays[name]? with
  | some a => a.get? "0"
  | none => s.vars[name]?

/-- The name that a name stands for in the end. -/
def resolve (s : State) (name : String) : String :=
  let step (n : String) : String := s.references[n]?.getD n
  if s.references.isEmpty then name else step (step (step name))

/-- The value of a parameter, if it is set. -/
def parameter? (s : State) (name : String) : Option String :=
  match name with
  | "#" => some (toString s.args.length)
  | "?" => some (toString s.status)
  | "$" => some (toString s.pid)
  | "!" => s.lastJob.map toString
  | "-" => some s.flags
  | "0" => some s.name
  | "@" => if s.args.isEmpty then none else some (" ".intercalate s.args)
  | "*" => if s.args.isEmpty then none else some (" ".intercalate s.args)
  | name =>
    if name.all Char.isDigit then s.args[name.toNat?.getD 0 - 1]? else s.stored? (s.resolve name)

/-- What stands in front of the shell's messages. -/
def label (s : State) : String :=
  let at' := if s.isLarge then s!"line {s.line}: " else s!"{s.line}: "
  let name := if s.isLarge && s.isGiven && !s.calls.isEmpty then "environment" else s.name
  name ++ ": " ++ at' ++ (s.builtin.map fun name => name ++ ": ").getD ""

/-- What the meaning of a program depends on that stands below so many lines. -/
def context (s : State) (base : Nat) (text : List Char) : Context :=
  { dialect := s.dialect
    aliases := if s.isLarge && !s.has "expand_aliases" then ∅ else s.aliases
    text := text
    base := base }

/-- The characters that text is split at. -/
def separators (s : State) : List Char := ((s.parameter? "IFS").getD " \t\n").toList

def trap? (s : State) (signal : Nat) : Option String := s.traps.lookup signal

/-- Changes what is done at a signal; nothing means what is usual. -/
def setTrap (s : State) (signal : Nat) (text : Option String) : State :=
  let others := s.traps.filter fun t => t.1 != signal
  { s with traps := match text with
    | some text => (signal, text) :: others
    | none => others }

end State

end HostFleet.Shell
