import HostFleet.CommandLine.Arguments
import HostFleet.Run.Mode

/-!
# Requests

What the program can be asked to do, and how that is said on the command line.
-/

namespace HostFleet.CommandLine

inductive Command where
  /-- Lists the hosts that an expression selects. -/
  | hostlist (expr : String)
  /-- Runs a command on the selected hosts. What is not given is taken from the settings. -/
  | exec (mode : Option Mode) (user : Option String) (threads : Option Nat) (expr : String)
      (words : List String)
  /-- Checks whether the selected hosts can be reached. -/
  | ping (expr : String) (count : Option Nat)
  /-- Tells what is known about a host. -/
  | describe (expr : String)
  /-- Fetches the inventory. -/
  | reload
  deriving DecidableEq, Repr

structure Request where
  /-- The settings file that was asked for. -/
  settings : Option String
  dropCache : Bool
  command : Command
  deriving DecidableEq, Repr

/-- A whole number as it is written on a command line, perhaps with a plus sign. -/
def natural? (text : String) : Option Nat :=
  let digits := match text.toList with
    | '+' :: cs => cs
    | cs => cs
  if digits.isEmpty || !digits.all Char.isDigit then none
  else some (digits.foldl (fun n c => n * 10 + (c.toNat - '0'.toNat)) 0)

def naturalBelow? (bound : Nat) (text : String) : Option Nat := (natural? text).filter (· < bound)

/-- The number of hosts that are served at once. -/
def threads? (text : String) : Option Nat := naturalBelow? (Nat.pow 2 64) text

/-- The number of echo requests. -/
def count? (text : String) : Option Nat := naturalBelow? (Nat.pow 2 32) text

def accepts (name value : String) : Bool :=
  match name with
  | "config" => !value.isEmpty
  | "mode" => (Mode.parse value).isOk
  | "threads" => (threads? value).isSome
  | "count" => (count? value).isSome
  | _ => true

/-- The options that every command has. -/
def common : List Named := [{ long := "config" }, { long := "drop-cache", takesValue := false }]

def shapeOf (named : List Named) (places : List Place) : Shape :=
  { named := common ++ named ++ [Shape.help], places := places, accepts := accepts }

def exprPlace : Place := { name := "expr", hyphens := true }

/-- The commands and what they can be given. -/
def commands : List (String × Shape) :=
  [("hostlist", shapeOf [] [exprPlace]),
    ("exec", shapeOf [{ long := "mode" }, { long := "user", letter := some 'u' },
        { long := "threads", letter := some 't' }]
      [exprPlace, { name := "cmd", hyphens := true, trailing := true }]),
    ("ping", shapeOf [] [exprPlace, { name := "count" }]),
    ("describe", shapeOf [] [exprPlace]),
    ("reload", shapeOf [] [])]

/-- What can be given before the command. -/
def outerShape : Shape :=
  { named := common ++ [Shape.help, Shape.version]
    commands := commands.map Prod.fst ++ ["help"]
    accepts := accepts }

/-- The command that is made of these arguments. -/
def Command.ofGiven (name : String) (g : Given) : Except Stop Command :=
  match name, g.placed with
  | "hostlist", [expr] => .ok (.hostlist expr)
  | "exec", expr :: word :: words =>
    .ok (.exec ((g.value? "mode").bind fun m => (Mode.parse m).toOption) (g.value? "user")
      ((g.value? "threads").bind threads?) expr (word :: words))
  | "ping", [expr] => .ok (.ping expr none)
  | "ping", [expr, count] => .ok (.ping expr (count? count))
  | "describe", [expr] => .ok (.describe expr)
  | "reload", [] => .ok .reload
  | _, _ => .error .usage

/-- The question that the arguments of `help` ask. -/
def helpOn : List String → Stop
  | [] => .help none
  | [name] => if outerShape.commands.contains name then .help (some name) else .usage
  | _ => .usage

/-- The request that the arguments make. An option that is given before the command and after it
counts as it is given after it. -/
def Request.ofArgs (args : List String) : Except Stop Request := do
  let outer ← outerShape.read none false {} args
  match outer.command with
  | none => .error .usage
  | some ("help", rest) => .error (helpOn rest)
  | some (name, rest) =>
    match commands.lookup name with
    | none => .error .usage
    | some shape =>
      match shape.read none false {} rest with
      | .error (.help _) => .error (.help (some name))
      | .error stop => .error stop
      | .ok g => do
        let command ← Command.ofGiven name g
        .ok {
          settings := (g.value? "config").or (outer.value? "config")
          dropCache := g.has "drop-cache" || outer.has "drop-cache"
          command := command }

end HostFleet.CommandLine
