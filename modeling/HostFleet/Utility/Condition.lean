import HostFleet.Utility.Basic
import HostFleet.Utility.Format

/-!
# Conditions

The conditions of the commands `test` and `[`, on texts, numbers and files.
-/

namespace HostFleet.Condition

open Machine

/-- What conditions look at. -/
structure View where
  dialect : Format.Dialect
  files : Files
  folder : String
  descriptors : List Nat := []
  /-- Whether a variable is set. -/
  isSet : String → Bool := fun _ => false
  /-- Whether an option of the shell is on. -/
  isOn : String → Bool := fun _ => false

/-- A decimal number with blanks around it. -/
def integer? (s : String) : Option Int :=
  let cs := ((s.toList.dropWhile Format.isSpace).reverse.dropWhile Format.isSpace).reverse
  let read (sign : Int) (ds : List Char) : Option Int :=
    if !ds.isEmpty && ds.all Char.isDigit then
      some (sign * (Format.valueOf 10 ds : Nat))
    else none
  match cs with
  | '-' :: ds => read (-1) ds
  | '+' :: ds => read 1 ds
  | ds => read 1 ds

def isBinary (d : Format.Dialect) (op : String) : Bool :=
  ["=", "!=", "<", ">", "-eq", "-ne", "-lt", "-le", "-gt", "-ge", "-nt", "-ot", "-ef"].contains op
    || (d != .shell && op = "==")

def isUnary (d : Format.Dialect) (op : String) : Bool :=
  ["-n", "-z", "-e", "-f", "-d", "-r", "-w", "-x", "-s", "-t", "-h", "-L", "-p", "-S", "-b", "-c",
    "-g", "-k", "-u", "-O", "-G"].contains op
    || (d != .shell && op = "-N") || (d = .large && ["-a", "-o", "-v", "-R"].contains op)

/-- The number an operand spells. The shells count with 64 bits only. -/
def number (d : Format.Dialect) (s : String) : Except String Int :=
  let wrong := match d with
    | .shell => "Illegal number: " ++ s
    | .large => s ++ ": integer expression expected"
    | .program => "invalid integer " ++ Utility.inQuotes s
  match integer? s with
  | none => .error wrong
  | some n =>
    if d != .program && (n < -Int.pow 2 63 || Int.pow 2 63 ≤ n) then .error wrong else .ok n

/-- What a path leads to. -/
def at? (v : View) (follow : Bool) (path : String) : Option (Place × Kind) :=
  (v.files.lookup follow v.folder path).toOption

def binary (v : View) (op l r : String) : Except String Bool :=
  let time? (path : String) : Option Int := (at? v true path).map fun p => v.files.time p.1
  let newer (a b : String) : Bool := match time? a, time? b with
    | some m, some n => n < m
    | some _, none => v.dialect != .shell
    | none, _ => false
  match op with
  | "=" => .ok (l == r)
  | "==" => .ok (l == r)
  | "!=" => .ok (l != r)
  | "<" => .ok (l < r)
  | ">" => .ok (r < l)
  | "-nt" => .ok (newer l r)
  | "-ot" => .ok (newer r l)
  | "-ef" =>
    .ok (match at? v true l, at? v true r with
      | some a, some b => a.1 == b.1
      | _, _ => false)
  | op => do
    let a ← number v.dialect l
    let b ← number v.dialect r
    .ok <| match op with
      | "-eq" => a == b
      | "-ne" => a != b
      | "-lt" => a < b
      | "-le" => a ≤ b
      | "-gt" => a > b
      | _ => a ≥ b

def unary (v : View) (op arg : String) : Except String Bool :=
  let found := at? v true arg
  let test (p : Place → Kind → Bool) : Except String Bool := .ok (found.any fun f => p f.1 f.2)
  match op with
  | "-n" => .ok (arg != "")
  | "-z" => .ok (arg == "")
  | "-v" => .ok (v.isSet arg)
  | "-o" => .ok (v.isOn arg)
  | "-t" => (number v.dialect arg).map fun _ => false
  | "-h" => .ok ((at? v false arg).any fun f => (f.2 matches .link _))
  | "-L" => .ok ((at? v false arg).any fun f => (f.2 matches .link _))
  | "-d" => test fun _ k => (k matches .folder)
  | "-f" => test fun _ k => (k matches .file _)
  | "-c" => test fun _ k => (k matches .device _)
  | "-s" => test fun _ k => match k with
    | .file content => !content.isEmpty
    | .folder => true
    | _ => false
  | "-x" => test fun p k => (k matches .folder) || v.files.isRunnable p
  | "-g" => test fun p _ => v.files.mode p &&& 0o2000 != 0
  | "-u" => test fun p _ => v.files.mode p &&& 0o4000 != 0
  | "-k" => test fun p _ => v.files.mode p &&& 0o1000 != 0
  | "-p" => .ok false
  | "-S" => .ok false
  | "-b" => .ok false
  | "-R" => .ok false
  | _ => .ok found.isSome

/-! ## The plain shell -/

inductive Token where
  | none
  | word
  | unary
  | binary
  | negation
  | both
  | either
  | opening
  | closing
  deriving DecidableEq

/-- What a word is taken for, as seen by itself. -/
def token (s : String) : Token :=
  if isUnary .shell s then .unary
  else if isBinary .shell s then .binary
  else match s with
    | "!" => .negation
    | "-a" => .both
    | "-o" => .either
    | "(" => .opening
    | ")" => .closing
    | _ => .word

/-- Whether a sign at a position can only be an operand. -/
def isOperandAt (args : List String) (i : Nat) : Bool :=
  match args[i + 1]?, args[i + 2]? with
  | Option.none, _ => true
  | some _, Option.none => false
  | some next, some _ => token next == .binary

/-- What the word at a position is taken for. A sign before no operand is an operand itself. -/
def tokenAt (args : List String) (i : Nat) : Token :=
  match args[i]? with
  | Option.none => .none
  | some s =>
    match token s with
    | .unary => if isOperandAt args i then .word else .unary
    | .opening => if (args[i + 1]?).isNone then .word else .opening
    | t => t

mutual

/-- A condition whose parts are joined by `-o`, from a position on, and the position it ends at. -/
def either (v : View) (args : List String) (fuel i : Nat) : Except String (Bool × Nat) :=
  match fuel with
  | 0 => .error "argument expected"
  | fuel + 1 => do
    let (a, i) ← both v args fuel i
    if tokenAt args (i + 1) = .either then do
      let (b, i) ← either v args fuel (i + 2)
      .ok (a || b, i)
    else .ok (a, i)

/-- A condition whose parts are joined by `-a`. -/
def both (v : View) (args : List String) (fuel i : Nat) : Except String (Bool × Nat) :=
  match fuel with
  | 0 => .error "argument expected"
  | fuel + 1 => do
    let (a, i) ← negation v args fuel i
    if tokenAt args (i + 1) = .both then do
      let (b, i) ← both v args fuel (i + 2)
      .ok (a && b, i)
    else .ok (a, i)

def negation (v : View) (args : List String) (fuel i : Nat) : Except String (Bool × Nat) :=
  match fuel with
  | 0 => .error "argument expected"
  | fuel + 1 =>
    if tokenAt args i = .negation then
      if tokenAt args (i + 1) = .none then .ok (true, i)
      else (negation v args fuel (i + 1)).map fun (b, i) => (!b, i)
    else primary v args fuel i (tokenAt args i)

def primary (v : View) (args : List String) (fuel i : Nat) (t : Token) :
    Except String (Bool × Nat) :=
  match fuel with
  | 0 => .error "argument expected"
  | fuel + 1 =>
    match t, args[i]? with
    | _, Option.none => .ok (false, i)
    | .opening, some _ =>
      if tokenAt args (i + 1) = .closing then .ok (false, i + 1)
      else do
        let (b, i) ← either v args fuel (i + 1)
        if tokenAt args (i + 1) = .closing then .ok (b, i + 1)
        else .error "closing paren expected"
    | .unary, some op =>
      match args[i + 1]? with
      | Option.none => .error (op ++ ": argument expected")
      | some arg => (unary v op arg).map (·, i + 1)
    | _, some word =>
      if tokenAt args (i + 1) = .binary then
        let op := args[i + 1]?.getD ""
        match args[i + 2]? with
        | Option.none => .error (op ++ ": argument expected")
        | some r => (binary v op word r).map (·, i + 2)
      else .ok (word != "", i)

end

/-- What is said about a word that does not belong there. -/
def unexpectedText (word : String) : String :=
  (if word.isEmpty then "" else word ++ ": ") ++ "unexpected operator"

/-- The condition as the plain shell takes it; three or four words have rules of their own. -/
def plain (v : View) (fuel : Nat) (args : List String) : Except String Bool :=
  match fuel with
  | 0 => .error "argument expected"
  | fuel + 1 =>
    let whole (t : Token) : Except String Bool := do
      let start := if t = .negation then negation v args (10 * args.length + 10) 0
        else either v args (10 * args.length + 10) 0
      let (b, i) ← start
      match args[i]?, args[i + 1]? with
      | some s, some _ => .error (unexpectedText s)
      | _, _ => .ok b
    let isThree := args.length = 3
    if args.isEmpty then .ok false
    else if isThree && (args[1]?).any fun s => token s = .binary then do
      .ok (← binary v (args[1]?.getD "") (args[0]?.getD "") (args[2]?.getD ""))
    else if isThree || args.length = 4 then
      if args.head? = some "(" && args.getLast? = some ")" then do
        let inner := args.tail.dropLast
        let (b, i) ← either v inner (10 * args.length + 10) 0
        match inner[i]?, inner[i + 1]? with
        | some s, some _ => .error (unexpectedText s)
        | _, _ => .ok b
      else if args.head? = some "!" then (plain v fuel args.tail).map (!·)
      else whole .word
    else whole .word

/-! ## The large shell and the programs -/

mutual

def term (v : View) (fuel : Nat) (args : List String) : Except String (Bool × List String) :=
  match fuel with
  | 0 => .error "argument expected"
  | fuel + 1 =>
    match args with
    | [] => .error "argument expected"
    | "!" :: rest => (term v fuel rest).map fun (b, rest) => (!b, rest)
    | "(" :: rest => do
      let (b, rest) ← disjunction v fuel rest
      match rest with
      | ")" :: rest => .ok (b, rest)
      | [] => .error (if v.dialect = .large then "\x60)\x27 expected" else "')' expected")
      | found :: _ =>
        .error (if v.dialect = .large then "\x60)\x27 expected, found " ++ found
          else "')' expected, found " ++ found)
    | l :: op :: rest =>
      if isBinary v.dialect op then
        match rest with
        | r :: rest => (binary v op l r).map (·, rest)
        | [] => .error (missing v op)
      else if isUnary v.dialect l then (unary v l op).map (·, rest)
      else .ok (l != "", op :: rest)
    | [word] => .ok (word != "", [])
where
  missing (v : View) (after : String) : String :=
    if v.dialect = .large then "argument expected"
    else "missing argument after " ++ Utility.inQuotes after

def conjunction (v : View) (fuel : Nat) (args : List String) :
    Except String (Bool × List String) :=
  match fuel with
  | 0 => .error "argument expected"
  | fuel + 1 => do
    let (a, rest) ← term v fuel args
    match rest with
    | "-a" :: rest => do
      let (b, rest) ← conjunction v fuel rest
      .ok (a && b, rest)
    | rest => .ok (a, rest)

def disjunction (v : View) (fuel : Nat) (args : List String) :
    Except String (Bool × List String) :=
  match fuel with
  | 0 => .error "argument expected"
  | fuel + 1 => do
    let (a, rest) ← conjunction v fuel args
    match rest with
    | "-o" :: rest => do
      let (b, rest) ← disjunction v fuel rest
      .ok (a || b, rest)
    | rest => .ok (a, rest)

end

/-- The condition as it is taken by the number of words. -/
def counted (v : View) (fuel : Nat) (args : List String) : Except String Bool :=
  let quoted (s : String) : String := if v.dialect = .large then s else Utility.inQuotes s
  match fuel, args with
  | 0, _ => .error "argument expected"
  | _, [] => .ok false
  | _, [a] => .ok (a != "")
  | _, [a, b] =>
    if a = "!" then .ok (b == "")
    else if isUnary v.dialect a then unary v a b
    else if v.dialect = .large || (a.startsWith "-" && a.length = 2) then
      .error (quoted a ++ ": unary operator expected")
    else .error ("missing argument after " ++ quoted b)
  | fuel + 1, [a, b, c] =>
    if isBinary v.dialect b then binary v b a c
    else if b = "-a" then .ok (a != "" && c != "")
    else if b = "-o" then .ok (a != "" || c != "")
    else if a = "!" then (counted v fuel [b, c]).map (!·)
    else if a = "(" && c = ")" then .ok (b != "")
    else .error (quoted b ++ ": binary operator expected")
  | fuel + 1, [a, b, c, d] =>
    if a = "!" then (counted v fuel [b, c, d]).map (!·)
    else if a = "(" && d = ")" then counted v fuel [b, c]
    else long [a, b, c, d]
  | _, args => long args
where
  long (args : List String) : Except String Bool := do
    let (b, rest) ← disjunction v (10 * args.length + 10) args
    match rest with
    | [] => .ok b
    | extra :: _ =>
      .error (if v.dialect = .large then "too many arguments"
        else "extra argument " ++ Utility.inQuotes extra)

/-- Whether the condition holds that the arguments describe, or what is wrong with them. -/
def eval (v : View) (args : List String) : Except String Bool :=
  if v.dialect = .shell then plain v (args.length + 1) args else counted v (args.length + 1) args

/-- The view of the process that asks. -/
def view (d : Format.Dialect) : Program View := do
  pure { dialect := d, files := ← Program.files, folder := ← Program.folder }

end HostFleet.Condition
