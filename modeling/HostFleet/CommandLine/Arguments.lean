import HostFleet.Names

/-!
# Arguments

The arguments of a command line are options, values of options, places and sub-commands. An
argument that looks like an option but names none is taken for a place if that place allows it.
-/

namespace HostFleet.CommandLine

/-- An option. -/
structure Named where
  long : String
  letter : Option Char := none
  takesValue : Bool := true
  deriving DecidableEq, Repr

/-- An argument that has its place instead of a name. -/
structure Place where
  name : String
  /-- Whether it can begin with a hyphen. -/
  hyphens : Bool := false
  /-- Whether it takes all that follows, whatever that looks like. -/
  trailing : Bool := false
  deriving DecidableEq, Repr

/-- What can be given. -/
structure Shape where
  named : List Named
  places : List Place := []
  commands : List String := []
  /-- Whether a value is one that an option or a place takes. -/
  accepts : String → String → Bool := fun _ _ => true

/-- What was given. -/
structure Given where
  named : List (String × String) := []
  /-- In the order of their places. -/
  placed : List String := []
  /-- A sub-command with all arguments after it. -/
  command : Option (String × List String) := none
  deriving DecidableEq, Repr

/-- Why there is nothing to carry out. -/
inductive Stop where
  /-- The arguments make no sense. -/
  | usage
  /-- A question about a command, or about the program itself. -/
  | help (command : Option String)
  | version
  deriving DecidableEq, Repr

namespace Shape

/-- The option that asks for help. Every shape has it. -/
def help : Named := ⟨"help", some 'h', false⟩

def version : Named := ⟨"version", some 'V', false⟩

def byLong? (s : Shape) (long : String) : Option Named := s.named.find? fun n => n.long == long

def byLetter? (s : Shape) (c : Char) : Option Named := s.named.find? fun n => n.letter == some c

/-- The place of the next argument without a name. -/
def next? (s : Shape) (g : Given) : Option Place :=
  match s.places[g.placed.length]? with
  | some p => some p
  | none => s.places.getLast?.filter Place.trailing

/-- Whether the next place takes what begins with a hyphen. -/
def takesHyphens (s : Shape) (g : Given) : Bool := ((s.next? g).map Place.hyphens).getD false

/-- Notes an option, which must not be given twice. -/
def note (s : Shape) (g : Given) (n : Named) (value : String) : Except Stop Given :=
  if n == help then .error (.help none)
  else if n == version then .error .version
  else if g.named.any fun m => m.1 == n.long then .error .usage
  else if n.takesValue && !s.accepts n.long value then .error .usage
  else .ok { g with named := g.named ++ [(n.long, value)] }

/-- Notes an argument in the next place. -/
def place (s : Shape) (g : Given) (value : String) : Except Stop Given :=
  match s.next? g with
  | none => .error .usage
  | some p =>
    if s.accepts p.name value then .ok { g with placed := g.placed ++ [value] } else .error .usage

/-- Notes the options whose letters stand together. What follows the letter of an option with a
value is that value; if nothing follows, the option waits for it. -/
def letters (s : Shape) (g : Given) : List Char → Except Stop (Given × Option Named)
  | [] => .ok (g, none)
  | c :: cs =>
    match s.byLetter? c with
    | none => .error .usage
    | some n =>
      if !n.takesValue then do
        let g ← s.note g n ""
        s.letters g cs
      else match cs with
        | [] => .ok (g, some n)
        | '=' :: value => return (← s.note g n (String.ofList value), none)
        | value => return (← s.note g n (String.ofList value), none)

/-- What an argument looks like. -/
inductive Look where
  | separator
  | long (name : String) (value : Option String)
  | short (cs : List Char)
  | value

def look (arg : String) : Look :=
  match arg.toList with
  | ['-', '-'] => .separator
  | '-' :: '-' :: cs =>
    let name := cs.takeWhile (· != '=')
    .long (String.ofList name) (match cs.drop name.length with
      | [] => none
      | _ :: value => some (String.ofList value))
  | '-' :: c :: cs => .short (c :: cs)
  | _ => .value

/-- Reads arguments one after the other. `waiting` is an option whose value is to come, and
`plain` tells that everything from here on has its place. -/
def read (s : Shape) (waiting : Option Named) (plain : Bool) (g : Given) :
    List String → Except Stop Given
  | [] => if waiting.isSome then .error .usage else .ok g
  | arg :: rest =>
    let isPlain (g : Given) : Bool := plain || ((s.next? g).map Place.trailing).getD false
    let asValue : Except Stop Given :=
      match waiting with
      | some n => do s.read none false (← s.note g n arg) rest
      | none => do s.read none (isPlain g) (← s.place g arg) rest
    if plain then asValue
    else if waiting.isNone && s.commands.contains arg then
      .ok { g with command := some (arg, rest) }
    else match look arg with
      | .separator => if waiting.isSome then .error .usage else s.read none true g rest
      | .long name value =>
        match s.byLong? name with
        | some n =>
          if waiting.isSome then .error .usage
          else match n.takesValue, value with
            | true, some value => do s.read none false (← s.note g n value) rest
            | true, none => s.read (some n) false g rest
            | false, some _ => .error .usage
            | false, none => do s.read none false (← s.note g n "") rest
        | none => if s.takesHyphens g then asValue else .error .usage
      | .short cs =>
        if s.takesHyphens g && cs.any fun c => (s.byLetter? c).isNone then asValue
        else if waiting.isSome then .error .usage
        else do
          let (g, waiting) ← s.letters g cs
          s.read waiting false g rest
      | .value => asValue

end Shape

namespace Given

def value? (g : Given) (name : String) : Option String := g.named.lookup name

def has (g : Given) (name : String) : Bool := (g.value? name).isSome

end Given

end HostFleet.CommandLine
