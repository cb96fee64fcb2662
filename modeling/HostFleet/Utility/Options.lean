import HostFleet.Utility.Basic

/-!
# Options

Arguments that begin with a dash tell a program how to work. Short options are letters, which can
stand together behind one dash; long ones are words behind two dashes, which can be cut short as
long as no other begins in the same way.
-/

namespace HostFleet.Utility

/-- A message about a value that an option does not know, with those that it knows. Values that mean
the same stand together. It ends the program. -/
def Call.wrongChoice {α : Type} (c : Call) (option value : String) (choices : List (List String))
    (code : Nat) : Machine.Program α :=
  c.misuse ("invalid argument " ++ inQuotes value ++ " for " ++ inQuotes option
    ++ "\nValid arguments are:" ++ String.join (choices.map fun names =>
      "\n  - " ++ ", ".intercalate (names.map inQuotes))) code

inductive Arity where
  | none
  | required
  | optional
  deriving DecidableEq, Repr

structure Options where
  /-- The letters; a colon behind one says that it takes a value, two that it may. -/
  short : String
  /-- The words, and the letter or the word under which each is known. -/
  long : List (String × Arity × String) := []
  /-- Whether options can also stand behind other arguments. -/
  anywhere : Bool := true

/-- The options that were given, in order, and the other arguments. -/
structure Parsed where
  options : List (String × String) := []
  operands : List String := []

namespace Parsed

def has (p : Parsed) (key : String) : Bool := p.options.any (·.1 == key)

/-- The value of the last option of this name. -/
def value? (p : Parsed) (key : String) : Option String :=
  (p.options.reverse.find? (·.1 == key)).map (·.2)

/-- The last of several options that was given. -/
def last? (p : Parsed) (keys : List String) : Option String :=
  (p.options.reverse.find? fun o => keys.contains o.1).map (·.1)

/-- The options in the order in which they were given. -/
def add (p : Parsed) (key value : String) : Parsed :=
  { p with options := p.options ++ [(key, value)] }

end Parsed

namespace Options

/-- Whether a letter is an option, and whether it takes a value. -/
def arity? (letter : Char) : List Char → Option Arity
  | [] => Option.none
  | c :: ':' :: ':' :: rest => if c = letter then some .optional else arity? letter rest
  | c :: ':' :: rest => if c = letter then some .required else arity? letter rest
  | c :: rest => if c = letter then some .none else arity? letter rest

/-- Options of one letter behind a dash; whether the next argument was taken as a value. -/
def letters (o : Options) (next : Option String) (p : Parsed) :
    List Char → Except String (Parsed × Bool)
  | [] => .ok (p, false)
  | c :: rest =>
    let key := String.singleton c
    match if c = ':' then Option.none else arity? c o.short.toList with
    | Option.none => .error ("invalid option -- '" ++ key ++ "'")
    | some .none => letters o next (p.add key "") rest
    | some .optional => .ok (p.add key (String.ofList rest), false)
    | some .required =>
      if !rest.isEmpty then .ok (p.add key (String.ofList rest), false)
      else match next with
        | some value => .ok (p.add key value, true)
        | Option.none => .error ("option requires an argument -- '" ++ key ++ "'")

/-- An option of one word behind two dashes; whether the next argument was taken as a value. -/
def word (o : Options) (next : Option String) (p : Parsed) (text : String) :
    Except String (Parsed × Bool) :=
  let (name, value) := splitAssignment text
  let found := match o.long.find? (·.1 == name) with
    | some l => [l]
    | Option.none => o.long.filter fun l => l.1.startsWith name
  match found with
  | [] => .error ("unrecognized option '--" ++ text ++ "'")
  | l :: more =>
    if more.any fun m => m.2.2 != l.2.2 then
      .error ("option '--" ++ text ++ "' is ambiguous; possibilities:"
        ++ String.join (found.map fun l => " '--" ++ l.1 ++ "'"))
    else match l.2.1, value with
      | .none, Option.none => .ok (p.add l.2.2 "", false)
      | .none, some _ => .error ("option '--" ++ l.1 ++ "' doesn't allow an argument")
      | _, some value => .ok (p.add l.2.2 value, false)
      | .optional, Option.none => .ok (p.add l.2.2 "", false)
      | .required, Option.none =>
        match next with
        | some value => .ok (p.add l.2.2 value, true)
        | Option.none => .error ("option '--" ++ l.1 ++ "' requires an argument")

/-- Takes the options out of the arguments. `skip` says that the next argument is a value that was
taken already. -/
def parse (o : Options) (p : Parsed) (skip : Bool) : List String → Except String Parsed
  | [] => .ok p
  | arg :: rest =>
    if skip then parse o p false rest
    else if arg = "--" then .ok { p with operands := p.operands ++ rest }
    else match arg.toList with
      | '-' :: '-' :: text =>
        match o.word rest.head? p (String.ofList text) with
        | .error e => .error e
        | .ok (p, taken) => parse o p taken rest
      | '-' :: c :: cs =>
        match o.letters rest.head? p (c :: cs) with
        | .error e => .error e
        | .ok (p, taken) => parse o p taken rest
      | _ =>
        if o.anywhere then parse o { p with operands := p.operands ++ [arg] } false rest
        else .ok { p with operands := p.operands ++ arg :: rest }

/-- The options of a call. A fault in them ends the program. -/
def of (o : Options) (c : Call) (code : Nat) : Machine.Program Parsed :=
  match o.parse {} false c.args with
  | .ok p => pure p
  | .error message => c.misuse message code

end Options

end HostFleet.Utility
