import HostFleet.Shell.Program

/-!
# Shell arithmetic

The value of an arithmetic expression in words of 64 bits. Names stand for variables, which
an expression can also set. The large dialect has more signs, and the values of its variables
are expressions themselves.
-/

namespace HostFleet.Shell.Arithmetic

/-- A number that wraps around at 64 bits. -/
def wrap (n : Int) : Int := Int.bmod n (Nat.pow 2 64)

inductive Token where
  | number (n : Int)
  | name (s : String)
  | sign (s : String)
  /-- A character with which nothing begins, or a number with a digit it cannot have. -/
  | bad (s : String)
  deriving DecidableEq, Repr

/-- The signs, longer ones first. -/
def signs : List String :=
  ["<<=", ">>=", "<<", ">>", "<=", ">=", "==", "!=", "&&", "||", "+=", "-=", "*=", "/=", "%=",
    "&=", "|=", "^=", "+", "-", "*", "/", "%", "<", ">", "=", "!", "~", "&", "|", "^", "?", ":",
    "(", ")"]

def largeSigns : List String := ["**", "++", "--"] ++ signs ++ [",", "[", "]"]

def digitValue (c : Char) : Nat :=
  if c.isDigit then c.toNat - 48 else if c.isLower then c.toNat - 87 else c.toNat - 55

def isHexDigit (c : Char) : Bool := c.isAlphanum && digitValue c < 16

def isOctalDigit (c : Char) : Bool := '0' ≤ c && c ≤ '7'

def valueOf (base : Nat) (ds : List Char) : Nat := ds.foldl (fun n c => n * base + digitValue c) 0

/-- The number at the front, decimal, octal after a zero, or hexadecimal, and what follows it. -/
def leadingNumber (cs : List Char) : Nat × List Char :=
  let read (base : Nat) (isDigit : Char → Bool) (cs : List Char) : Nat × List Char :=
    let ds := cs.takeWhile isDigit
    (valueOf base ds, cs.drop ds.length)
  match cs with
  | '0' :: x :: d :: rest =>
    if (x = 'x' || x = 'X') && isHexDigit d then read 16 isHexDigit (d :: rest)
    else read 8 isOctalDigit cs
  | '0' :: _ => read 8 isOctalDigit cs
  | cs => read 10 Char.isDigit cs

/-- The largest number. -/
def largest : Int := Int.pow 2 63 - 1

def isWordChar (c : Char) : Bool := c.isAlphanum || c = '_'

/-- The value of a digit in a base up to 64. -/
def wideDigit (base : Nat) (c : Char) : Nat :=
  if c.isDigit then c.toNat - 48
  else if c.isLower then c.toNat - 87
  else if c.isUpper then if base ≤ 36 then c.toNat - 55 else c.toNat - 29
  else if c = '@' then 62 else 63

/-- The tokens of an expression. -/
def tokens (d : Dialect) (fuel : Nat) (cs : List Char) : List Token :=
  match fuel, cs with
  | 0, _ => []
  | _, [] => []
  | fuel + 1, c :: rest =>
    if c = ' ' || c = '\t' || c = '\n' then tokens d fuel rest
    else if c.isDigit && d = .large then
      let word := (c :: rest).takeWhile fun c => isWordChar c || c = '#' || c = '@'
      let after := (c :: rest).drop word.length
      let (n, left) := leadingNumber word
      let token : Token :=
        match left with
        | '#' :: ds =>
          if !ds.isEmpty && ds.all fun c => wideDigit n c < n then
            .number (wrap (ds.foldl (fun m c => m * n + wideDigit n c) 0 : Nat))
          else .bad (String.ofList word)
        | [] => .number (wrap n)
        | _ => .bad (String.ofList word)
      token :: tokens d fuel after
    else if c.isDigit then
      let (n, after) := leadingNumber (c :: rest)
      .number (min n largest) :: tokens d fuel after
    else if isWordChar c then
      let word := (c :: rest).takeWhile isWordChar
      .name (String.ofList word) :: tokens d fuel ((c :: rest).drop word.length)
    else
      let known := if d = .large then largeSigns else signs
      match known.find? fun s => s.toList.isPrefixOf (c :: rest) with
      | some s => .sign s :: tokens d fuel ((c :: rest).drop s.length)
      | none => [.bad (String.ofList (c :: rest))]

/-- How tightly a binary sign binds. -/
def level? : String → Option Nat
  | "||" => some 1
  | "&&" => some 2
  | "|" => some 3
  | "^" => some 4
  | "&" => some 5
  | "==" => some 6
  | "!=" => some 6
  | "<" => some 7
  | ">" => some 7
  | "<=" => some 7
  | ">=" => some 7
  | "<<" => some 8
  | ">>" => some 8
  | "+" => some 9
  | "-" => some 9
  | "*" => some 10
  | "/" => some 10
  | "%" => some 10
  | "**" => some 11
  | _ => none

def truth (b : Bool) : Int := if b then 1 else 0

/-- The bits of a word, for signs that act on bits. -/
def bits (n : Int) : Nat := (n % Int.pow 2 64).toNat

/-- What is wrong with an expression. -/
inductive Fault where
  | expecting (what : String) (tokens : List Token)
  | zeroDivision
  | negativePower
  | illegalNumber (text : String)
  | notAssignable (tokens : List Token)
  deriving DecidableEq

def apply (sign : String) (a b : Int) : Except Fault Int :=
  match sign with
  | "||" => .ok (truth (a != 0 || b != 0))
  | "&&" => .ok (truth (a != 0 && b != 0))
  | "|" => .ok (wrap (bits a ||| bits b : Nat))
  | "^" => .ok (wrap (bits a ^^^ bits b : Nat))
  | "&" => .ok (wrap (bits a &&& bits b : Nat))
  | "==" => .ok (truth (a == b))
  | "!=" => .ok (truth (a != b))
  | "<" => .ok (truth (a < b))
  | ">" => .ok (truth (a > b))
  | "<=" => .ok (truth (a ≤ b))
  | ">=" => .ok (truth (a ≥ b))
  | "<<" => .ok (wrap (a * Int.pow 2 (bits b % 64)))
  | ">>" => .ok (a.fdiv (Int.pow 2 (bits b % 64)))
  | "+" => .ok (wrap (a + b))
  | "-" => .ok (wrap (a - b))
  | "*" => .ok (wrap (a * b))
  | "**" =>
    if b < 0 then .error .negativePower
    else .ok ((List.range (min b.toNat 4096)).foldl (fun n _ => wrap (n * a)) 1)
  | _ =>
    if b = 0 then .error .zeroDivision
    else if sign = "/" then .ok (wrap (a.tdiv b))
    else .ok (wrap (a.tmod b))

/-- The variables, and the tokens that are left. -/
abbrev Rest := NameMap String × List Token

/-- The number that a value of a variable spells in the plain dialect, with blanks around it. -/
def plainValue (value : String) : Except Fault Int :=
  let isSpace (c : Char) : Bool := c = ' ' || (9 ≤ c.toNat && c.toNat ≤ 13)
  let cs := value.toList.dropWhile isSpace
  let (negative, body) := match cs with
    | '-' :: rest => (true, rest)
    | '+' :: rest => (false, rest)
    | cs => (false, cs)
  let (n, rest) := leadingNumber body
  let digits := rest.length < body.length
  let n : Int := if negative then -(n : Int) else n
  if n > largest || n < -largest - 1 || (!digits && !value.isEmpty && !cs.isEmpty)
      || !(rest.all isSpace) then .error (.illegalNumber value)
  else .ok n

mutual

/-- An expression whose parts bind at least as tightly as `level`. -/
def binary (d : Dialect) (fuel level : Nat) (r : Rest) : Except Fault (Int × Rest) :=
  match fuel with
  | 0 => .error (.expecting "primary" r.2)
  | fuel + 1 => do
    let (a, r) ← unary d fuel r
    continueWith d fuel level a r

/-- Takes the signs after `a` that bind at least as tightly as `level`. -/
def continueWith (d : Dialect) (fuel level : Nat) (a : Int) (r : Rest) :
    Except Fault (Int × Rest) :=
  match fuel with
  | 0 => .error (.expecting "primary" r.2)
  | fuel + 1 =>
    match r.2 with
    | .sign s :: rest =>
      match level? s with
      | some n =>
        if n < level then .ok (a, r)
        else do
          let skip := (s == "&&" && a == 0) || (s == "||" && a != 0)
          let (b, after) ← binary d fuel (if s = "**" then n else n + 1) (r.1, rest)
          let after := if skip then (r.1, after.2) else after
          let value ← if skip then .ok (truth (a != 0)) else apply s a b
          continueWith d fuel level value after
      | none => .ok (a, r)
    | _ => .ok (a, r)

/-- The value of a variable; one that is not set counts as zero. -/
def lookup (d : Dialect) (fuel : Nat) (vars : NameMap String) (name : String) :
    Except Fault Int :=
  match fuel with
  | 0 => .error (.expecting "primary" [])
  | fuel + 1 =>
    let value := vars[name]?.getD ""
    if d = .plain then plainValue value
    else
      let ts := tokens d (value.length + 1) value.toList
      if ts.isEmpty then .ok 0
      else do
        let (n, (_, rest)) ← assign d fuel (vars, ts)
        if rest.isEmpty then .ok n else .error (.expecting "EOF" rest)

/-- A name with a subscript, if one follows it. -/
def place (d : Dialect) (fuel : Nat) (name : String) (r : Rest) :
    Except Fault (String × Rest) :=
  match fuel with
  | 0 => .error (.expecting "primary" r.2)
  | fuel + 1 =>
    match r.2 with
    | .sign "[" :: rest => do
      let (n, after) ← assign d fuel (r.1, rest)
      match after.2 with
      | .sign "]" :: rest =>
        .ok (if n = 0 then name else name ++ "[" ++ toString n ++ "]", (after.1, rest))
      | rest => .error (.expecting "]" rest)
    | _ => .ok (name, r)

/-- A number, a variable, an expression in parentheses, or one of these after a sign. -/
def unary (d : Dialect) (fuel : Nat) (r : Rest) : Except Fault (Int × Rest) :=
  match fuel with
  | 0 => .error (.expecting "primary" r.2)
  | fuel + 1 =>
    let step (by' : Int) (rest : List Token) : Except Fault (Int × Rest) :=
      match rest with
      | .name s :: rest => do
        let (s, after) ← place d fuel s (r.1, rest)
        let n ← lookup d fuel after.1 s
        let n := wrap (n + by')
        .ok (n, (after.1.insert s (toString n), after.2))
      | rest => unary d fuel (r.1, rest)
    match r.2 with
    | .number n :: rest => .ok (n, (r.1, rest))
    | .name s :: rest => do
      let (s, after) ← place d fuel s (r.1, rest)
      let n ← lookup d fuel after.1 s
      match after.2 with
      | .sign "++" :: rest => .ok (n, (after.1.insert s (toString (wrap (n + 1))), rest))
      | .sign "--" :: rest => .ok (n, (after.1.insert s (toString (wrap (n - 1))), rest))
      | rest => .ok (n, (after.1, rest))
    | .sign "(" :: rest => do
      let (n, after) ← listed d fuel (r.1, rest)
      match after.2 with
      | .sign ")" :: rest => .ok (n, (after.1, rest))
      | rest => .error (.expecting "')'" rest)
    | .sign "-" :: rest => do
      let (n, after) ← unary d fuel (r.1, rest)
      .ok (wrap (-n), after)
    | .sign "+" :: rest => unary d fuel (r.1, rest)
    | .sign "++" :: rest => step 1 rest
    | .sign "--" :: rest => step (-1) rest
    | .sign "!" :: rest => do
      let (n, after) ← unary d fuel (r.1, rest)
      .ok (truth (n == 0), after)
    | .sign "~" :: rest => do
      let (n, after) ← unary d fuel (r.1, rest)
      .ok (-n - 1, after)
    | rest => .error (.expecting "primary" rest)

/-- A whole expression: an assignment, a choice, or signs and values. -/
def assign (d : Dialect) (fuel : Nat) (r : Rest) : Except Fault (Int × Rest) :=
  match fuel with
  | 0 => .error (.expecting "primary" r.2)
  | fuel + 1 => do
    let target : Option (String × Rest) ← match r.2 with
      | .name s :: rest =>
        match place d fuel s (r.1, rest) with
        | .ok t => .ok (some t)
        | .error e => .error e
      | _ => .ok none
    let assigning : Option (String × String × Rest) := match target with
      | some (s, vars, .sign op :: rest) =>
        if op = "=" then some (s, "", (vars, rest))
        else if op.endsWith "=" && (level? op).isNone then
          some (s, String.ofList op.toList.dropLast, (vars, rest))
        else none
      | _ => none
    match assigning with
    | some (name, op, rest) => do
      let (n, after) ← assign d fuel rest
      let n ← if op.isEmpty then .ok n else do apply op (← lookup d fuel after.1 name) n
      .ok (n, (after.1.insert name (toString n), after.2))
    | none => do
      let (n, after) ← binary d fuel 0 r
      match after.2 with
      | .sign "?" :: rest => do
        let (yes, afterYes) ← assign d fuel (after.1, rest)
        match afterYes.2 with
        | .sign ":" :: rest => do
          let (no, afterNo) ← assign d fuel (after.1, rest)
          if n != 0 then .ok (yes, (afterYes.1, afterNo.2)) else .ok (no, afterNo)
        | rest => .error (.expecting "':'" rest)
      | _ => .ok (n, after)

/-- Expressions with commas between them; the last one gives the value. -/
def listed (d : Dialect) (fuel : Nat) (r : Rest) : Except Fault (Int × Rest) :=
  match fuel with
  | 0 => .error (.expecting "primary" r.2)
  | fuel + 1 => do
    let (n, after) ← assign d fuel r
    match after.2 with
    | .sign "," :: rest => listed d fuel (after.1, rest)
    | _ => .ok (n, after)

end

/-- What a fault of an expression is called. -/
def message (d : Dialect) (whole : String) : Fault → String
  | .illegalNumber text => "Illegal number: " ++ text
  | .expecting what ts =>
    if d = .plain then "arithmetic expression: expecting " ++ what ++ ": \"" ++ whole ++ "\""
    else
      let near := " (error token is \"" ++ rest ts ++ "\")"
      whole ++ (if what = "primary" then ": syntax error: operand expected" ++ near
        else if what = "')'" then ": missing \x60)\x27" ++ near
        else if what = "':'" then ": \x60:\x27 expected for conditional expression" ++ near
        else match ts with
          | .bad text :: _ =>
            if (text.toList.head?.any Char.isDigit) then
              (if text.contains '#' then ": value too great for base (error token is \"" ++ text
                else ": value too great for base (error token is \"" ++ text) ++ "\")"
            else ": syntax error: invalid arithmetic operator" ++ near
          | _ => ": syntax error in expression" ++ near)
  | .zeroDivision =>
    if d = .plain then "arithmetic expression: division by zero: \"" ++ whole ++ "\""
    else
      let last := whole.toList.reverse.takeWhile fun c => !(['/', '%'].contains c)
      let last := last.reverse.dropWhile (· = ' ')
      whole ++ ": division by 0 (error token is \"" ++ String.ofList last ++ "\")"
  | .negativePower => whole ++ ": exponent less than 0 (error token is \"" ++ whole ++ "\")"
  | .notAssignable ts => whole ++ ": attempted assignment to non-variable (error token is \""
      ++ rest ts ++ "\")"
where
  rest (ts : List Token) : String :=
    let text : Token → String
      | .number n => toString n
      | .name s => s
      | .sign s => s
      | .bad s => s
    let words := ts.map text
    let start := words.head?.getD ""
    if start.isEmpty then whole
    else match (whole.splitOn start).getLast? with
      | some tail => start ++ tail
      | none => start

/-- The value of an expression and the variables after it, or what is wrong with it. -/
def eval (d : Dialect) (vars : NameMap String) (whole : String) :
    Except String (Int × NameMap String) :=
  let ts := tokens d (whole.length + 1) whole.toList
  if ts.isEmpty && d = .large then .ok (0, vars)
  else match listed d (30 * ts.length + 60) (vars, ts) with
    | .error e => .error (message d whole e)
    | .ok (n, (vars, rest)) =>
      if rest.isEmpty then .ok (n, vars) else .error (message d whole (.expecting "EOF" rest))

end HostFleet.Shell.Arithmetic
