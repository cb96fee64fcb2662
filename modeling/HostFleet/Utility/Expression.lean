import HostFleet.Text.Regex
import HostFleet.Utility.Concatenation

/-!
# Expressions

`expr` works out what its arguments say: sums and products, comparisons, choices, and questions
about texts.
-/

namespace HostFleet.Expression

open Utility

/-- What is wrong with an expression. -/
inductive Fault where
  | missing (after : String)
  | unexpected (arg : String)
  | expecting (after : String)
  | instead (arg : String)
  | closing
  | notInteger
  | division
  | pattern (message : String)

def Fault.message : Fault → String
  | .missing after => "syntax error: missing argument after " ++ inQuotes after
  | .unexpected arg => "syntax error: unexpected argument " ++ inQuotes arg
  | .expecting after => "syntax error: expecting ')' after " ++ inQuotes after
  | .instead arg => "syntax error: expecting ')' instead of " ++ inQuotes arg
  | .closing => "syntax error: unexpected ')'"
  | .notInteger => "non-integer argument"
  | .division => "division by zero"
  | .pattern message => message

/-- Whether a value counts as nothing: no text at all, or a zero. -/
def isNull (s : String) : Bool :=
  let ds := match s.toList with
    | '-' :: ds => ds
    | ds => ds
  s.isEmpty || (!ds.isEmpty && ds.all (· = '0'))

def integer? (s : String) : Option Int :=
  match s.toList with
  | '-' :: ds => (natural? (String.ofList ds)).map fun n => -(n : Int)
  | _ => (natural? s).map fun n => (n : Int)

/-- A value, the arguments left, and the argument before them. -/
abbrev Reading := Except Fault (String × List String × String)

/-- The match of a pattern at the front of a text. -/
def matchFront (text pattern : String) : Except Fault String :=
  match Regex.read Regex.basic pattern with
  | .error e => .error (.pattern (if e = .bracket then "Invalid regular expression" else e.message))
  | .ok (r, groups) =>
    let cs := text.toList.toArray
    match Regex.longestAt? {} r cs 0 with
    | none => .ok (if 0 < groups then "" else "0")
    | some m =>
      if 0 < groups then .ok (String.ofList ((m.group? cs 1).getD []))
      else .ok (toString m.stop)

/-- Operators of two values by how tightly they bind. -/
def levels : List (List String) :=
  [["|"], ["&"], ["<", "<=", "=", "==", "!=", ">=", ">"], ["+", "-"], ["*", "/", "%"], [":"]]

def compareValues (a b : String) : Ordering :=
  match integer? a, integer? b with
  | some x, some y => compare x y
  | _, _ => compare a b

/-- Applies an operator. -/
def apply (op a b : String) : Except Fault String :=
  let truth (b : Bool) : Except Fault String := .ok (if b then "1" else "0")
  let o := compareValues a b
  match op with
  | "|" => .ok (if !isNull a then a else if !isNull b then b else "0")
  | "&" => .ok (if isNull a || isNull b then "0" else a)
  | "<" => truth (o = .lt)
  | "<=" => truth o.isLE
  | "=" => truth (o = .eq)
  | "==" => truth (o = .eq)
  | "!=" => truth (o != .eq)
  | ">=" => truth o.isGE
  | ">" => truth (o = .gt)
  | ":" => matchFront a b
  | op =>
    match integer? a, integer? b with
    | some x, some y =>
      if op = "+" then .ok (toString (x + y))
      else if op = "-" then .ok (toString (x - y))
      else if op = "*" then .ok (toString (x * y))
      else if y = 0 then .error .division
      else if op = "/" then .ok (toString (x.tdiv y))
      else .ok (toString (x.tmod y))
    | _, _ => .error .notInteger

/-- The function of a name, with the number of its arguments. -/
def functions : List (String × Nat) := [("length", 1), ("index", 2), ("match", 2), ("substr", 3)]

def call (name : String) (args : List String) : Except Fault String :=
  match name, args with
  | "length", [s] => .ok (toString s.length)
  | "index", [s, set] =>
    .ok (toString (match s.toList.findIdx? fun c => set.contains c with
      | some n => n + 1
      | none => 0))
  | "match", [s, pattern] => matchFront s pattern
  | "substr", [s, start, count] =>
    match integer? start, integer? count with
    | some i, some n =>
      if i ≤ 0 || n ≤ 0 then .ok ""
      else .ok (String.ofList ((s.toList.drop (i - 1).toNat).take n.toNat))
    | _, _ => .ok ""
  | _, _ => .ok ""

mutual

/-- An expression of operators that bind at least as tightly as the first of these levels. A value
that does not count is not worked out. -/
def readLevel (fuel : Nat) (levels : List (List String)) (counts : Bool) (last : String)
    (args : List String) : Reading :=
  match fuel with
  | 0 => .error (.missing last)
  | fuel + 1 =>
    match levels with
    | [] => readFactor fuel counts last args
    | ops :: tighter => do
      let (a, args, last) ← readLevel fuel tighter counts last args
      readRest fuel ops tighter counts a last args

/-- The operators of one level that follow a value. -/
def readRest (fuel : Nat) (ops : List String) (tighter : List (List String)) (counts : Bool)
    (a last : String) (args : List String) : Reading :=
  match fuel with
  | 0 => .error (.missing last)
  | fuel + 1 =>
    match args with
    | [] => .ok (a, [], last)
    | op :: rest =>
      if !ops.contains op then .ok (a, args, last)
      else do
        let needed := if op = "|" then isNull a else if op = "&" then !isNull a else true
        let (b, rest, last) ← readLevel fuel tighter (counts && needed) op rest
        let value ← if counts then apply op a b else .ok a
        readRest fuel ops tighter counts value last rest

def readFactor (fuel : Nat) (counts : Bool) (last : String) (args : List String) : Reading :=
  match fuel with
  | 0 => .error (.missing last)
  | fuel + 1 =>
    match args with
    | [] => .error (.missing last)
    | "(" :: rest => do
      let (a, rest, last) ← readLevel fuel levels counts "(" rest
      match rest with
      | ")" :: rest => .ok (a, rest, ")")
      | [] => .error (.expecting last)
      | other :: _ => .error (.instead other)
    | ")" :: _ => .error .closing
    | "+" :: rest =>
      match rest with
      | [] => .error (.missing "+")
      | a :: rest => .ok (a, rest, a)
    | name :: rest =>
      match functions.lookup name with
      | none => .ok (name, rest, name)
      | some count => do
        let (args, rest, last) ← readArgs fuel counts count name rest
        let value ← if counts then call name args else .ok ""
        .ok (value, rest, last)

def readArgs (fuel : Nat) (counts : Bool) (count : Nat) (last : String) (args : List String) :
    Except Fault (List String × List String × String) :=
  match fuel, count with
  | 0, _ => .error (.missing last)
  | _, 0 => .ok ([], args, last)
  | fuel + 1, count + 1 => do
    let (a, rest, last) ← readFactor fuel counts last args
    let (more, rest, last) ← readArgs fuel counts count last rest
    .ok (a :: more, rest, last)

end

/-- The value of all arguments together. -/
def eval (args : List String) : Except Fault String := do
  let (a, rest, _) ← readLevel (20 * args.length + 40) levels true "" args
  match rest with
  | [] => .ok a
  | arg :: _ => .error (.unexpected arg)

end HostFleet.Expression

namespace HostFleet.Utility

def expr : Utility := fun c => do
  let args := if c.args.head? = some "--" then c.args.tail else c.args
  if args.isEmpty then c.misuse "missing operand" 2
  match Expression.eval args with
  | .error e => c.fail e.message 2
  | .ok value => do
    c.putOr 2 (value ++ "\n")
    pure (if Expression.isNull value then 1 else 0)

end HostFleet.Utility
