import HostFleet.Utility.Records.Reader.Basic

/-!
# Reading expressions

The expressions that tokens spell. `level` is how tightly an operator has to bind, and the depth
of nesting is bounded by `fuel`.
-/

namespace HostFleet.Utility.Records

namespace Reader

/-- How many arguments a function takes: at least and at most. -/
def arity : Known → Nat × Nat
  | .arcTangent => (2, 2)
  | .flush => (0, 1)
  | .index => (2, 2)
  | .length => (0, 1)
  | .random => (0, 0)
  | .seed => (0, 1)
  | .format => (1, 255)
  | .formatTime => (0, 3)
  | .part => (2, 3)
  | .time => (0, 0)
  | _ => (1, 1)

/-- The pattern that a text spells. A fault in it is complained about. -/
def patternOf (text : String) : Reader Expr := do
  match Pattern.read text with
  | .ok r => pure (.pattern r)
  | .error e => do
    complainHere ("regular expression compile failed (" ++ e.message ++ ")\n" ++ text)
    pure (.pattern .empty)

/-- An expression where a pattern is wanted. -/
def asPattern : Expr → Reader Expr
  | .text s => patternOf s
  | e => pure e

def relation? (s : String) : Option Relation :=
  [("<", .less), ("<=", .lessEqual), ("==", .equal), ("!=", .unequal), (">=", .greaterEqual),
    (">", .greater)].lookup s

def assignment? (s : String) : Option (Option Operator) :=
  [("=", none), ("+=", some .add), ("-=", some .subtract), ("*=", some .multiply),
    ("/=", some .divide), ("%=", some .remainder), ("^=", some .power)].lookup s

/-- The operator of a sign between two parts of a text, and how closely it binds. -/
def operator? (s : String) : Option (Operator × Nat) :=
  [("+", (.add, 1)), ("-", (.subtract, 1)), ("*", (.multiply, 2)), ("/", (.divide, 2)),
    ("%", (.remainder, 2)), ("^", (.power, 5))].lookup s

/-- How closely the other signs bind. -/
def level? (s : String) : Option Nat :=
  if s = "||" then some 1
  else if s = "&&" then some 2
  else if s = "in" then some 3
  else if s = "~" || s = "!~" then some 4
  else if (relation? s).isSome then some 5
  else none

/-- Whether a part of a text begins here. -/
def beginsPart (t : Token) : Bool :=
  match t.kind with
  | .number .. => true
  | .text _ => true
  | .pattern _ => true
  | .name .. => true
  | .known .. => true
  | .word s =>
    ["$", "!", "(", "-", "+", "++", "--", "getline", "match", "split", "sub", "gsub"].contains s
  | _ => false

/-- The sign that stands here, if it can stand in an expression. -/
def sign? : Reader (Option String) := do
  let t ← peek
  let prints := (← get).prints
  match t.kind with
  | .word s => pure (if prints && (s = ">" || s = "|") then none else some s)
  | _ => pure none

/-- Reads something in which signs of output have their other meaning. -/
def inside {α : Type} (r : Reader α) : Reader α := do
  let prints := (← get).prints
  modify fun s => { s with prints := false }
  let a ← r
  modify fun s => { s with prints := prints }
  pure a

mutual

def readExpr (fuel : Nat) : Reader Expr :=
  match fuel with
  | 0 => fail
  | fuel + 1 => do
    let e ← readRelation fuel 1
    if ← accept "?" then
      let a ← readExpr fuel
      expect ":"
      let b ← readExpr fuel
      pure (.choice e a b)
    else pure e

/-- Parts between which stand signs that bind at least so closely. -/
def readRelation (fuel level : Nat) : Reader Expr :=
  match fuel with
  | 0 => fail
  | fuel + 1 => do
    let e ← readOperand fuel
    moreRelation fuel level e

def moreRelation (fuel level : Nat) (e : Expr) : Reader Expr :=
  match fuel with
  | 0 => fail
  | fuel + 1 => do
    match ← sign? with
    | none => pure e
    | some s =>
      match level? s with
      | none => pure e
      | some own =>
        if own < level then pure e
        else do
          skip
          if s = "in" then
            let table ← useAs .table (← readName)
            moreRelation fuel level (.isKey [e] table)
          else
            let b ← readRelation fuel (own + 1)
            let whole ← match s with
              | "||" => pure (.either e b)
              | "&&" => pure (.both e b)
              | "~" => do pure (.matching false e (← asPattern b))
              | "!~" => do pure (.matching true e (← asPattern b))
              | s => pure (.relation ((relation? s).getD .equal) e b)
            moreRelation fuel level whole

/-- An assignment, or a text of parts that are joined. -/
def readOperand (fuel : Nat) : Reader Expr :=
  match fuel with
  | 0 => fail
  | fuel + 1 => do
    let isOpened ← isAt "("
    let e ← readSum fuel 1
    let e ← moreParts fuel e
    match e, isOpened with
    | .location l, false =>
      match (← sign?).bind assignment? with
      | some op => do
        skip
        let value ← readExpr fuel
        pure (.assign l op value)
      | none => pure e
    | e, _ => pure e

def moreParts (fuel : Nat) (e : Expr) : Reader Expr :=
  match fuel with
  | 0 => fail
  | fuel + 1 => do
    if beginsPart (← peek) then
      let b ← readSum fuel 1
      moreParts fuel (.join e b)
    else pure e

/-- Parts between which stand operators that bind at least so closely. -/
def readSum (fuel level : Nat) : Reader Expr :=
  match fuel with
  | 0 => fail
  | fuel + 1 => do
    let e ← readCounted fuel
    moreSum fuel level e

def moreSum (fuel level : Nat) (e : Expr) : Reader Expr :=
  match fuel with
  | 0 => fail
  | fuel + 1 => do
    match ← sign? with
    | none => pure e
    | some "|" =>
      if 4 < level then pure e
      else do
        skip
        expect "getline"
        let target ← readTarget fuel
        moreSum fuel level (.next (.command e) target)
    | some s =>
      match operator? s with
      | none => pure e
      | some (op, own) =>
        if own < level then pure e
        else do
          skip
          let b ← readSum fuel (if op = .power then own else own + 1)
          moreSum fuel level (.operation op e b)

/-- A part with the sign behind it that counts. -/
def readCounted (fuel : Nat) : Reader Expr :=
  match fuel with
  | 0 => fail
  | fuel + 1 => do
    match ← readPart fuel with
    | .location l => do
      if ← accept "++" then pure (.count l true false)
      else if ← accept "--" then pure (.count l false false)
      else pure (.location l)
    | e => pure e

/-- What takes a record, if it is named. -/
def readTarget (fuel : Nat) : Reader (Option Location) :=
  match fuel with
  | 0 => fail
  | fuel + 1 => do
    let isNamed := match (← peek).kind with
      | .name .. => true
      | .word s => s == "$"
      | _ => false
    if isNamed then some <$> readLocation fuel else pure none

/-- Something that can have a value. -/
def readLocation (fuel : Nat) : Reader Location :=
  match fuel with
  | 0 => fail
  | fuel + 1 => do
    if ← accept "$" then
      let e ← readPart fuel
      pure (.field e)
    else
      let name ← readName
      if ← isAt "[" then
        let table ← useAs .table name
        skip
        let keys ← inside (readList fuel)
        expect "]"
        pure (.element table keys)
      else
        let v ← useAs .variable name
        pure (.variable v)

/-- Expressions with commas between them. -/
def readList (fuel : Nat) : Reader (List Expr) :=
  match fuel with
  | 0 => fail
  | fuel + 1 => do
    let e ← readExpr fuel
    if ← accept "," then
      let rest ← readList fuel
      pure (e :: rest)
    else pure [e]

/-- The arguments of a call behind the opening parenthesis, which can be names that stand for
tables. -/
def readArgs (fuel : Nat) : Reader (List (Expr × Option Variable)) :=
  match fuel with
  | 0 => fail
  | fuel + 1 => do
    if ← accept ")" then pure []
    else
      let tokens := (← get).tokens
      let isAlone := match tokens with
        | _ :: t :: _ => t.isWord "," || t.isWord ")"
        | _ => false
      let arg ← match (← peek).kind, isAlone with
        | .name s _, true => do
          skip
          let v ← bare s
          pure (.location (.variable v), some v)
        | _, _ => do
          let e ← readExpr fuel
          pure (e, none)
      if ← accept "," then
        if ← isAt ")" then fail
        let rest ← readArgs fuel
        pure (arg :: rest)
      else
        expect ")"
        pure [arg]

/-- A call of a function that every script knows. -/
def readKnown (fuel : Nat) (f : Known) (name : String) : Reader Expr :=
  match fuel with
  | 0 => fail
  | fuel + 1 => do
    if f = .length && !(← isAt "(") then pure (.known .length [])
    else
      expect "("
      let args ← inside (readArgs fuel)
      if f != .length then
        for (_, v) in args do
          match v with
          | some (.global name) => discard (useAs .variable name)
          | some (.parameter i) => discard (useAs .variable (((← get).parameters)[i]?.getD ""))
          | none => pure ()
      let (least, most) := arity f
      if args.length < least || most < args.length then
        complainHere ("wrong number of arguments in call to " ++ name)
      pure (.known f (args.map (·.1)))

/-- A part without the sign behind it that counts. -/
def readPart (fuel : Nat) : Reader Expr :=
  match fuel with
  | 0 => fail
  | fuel + 1 => do
    let t ← peek
    match t.kind with
    | .number x s => do
      if x.isInf then complainHere (s ++ " : decimal overflow")
      skip
      pure (.number x)
    | .text s => do
      skip
      pure (.text s)
    | .pattern s => do
      let e ← patternOf s
      skip
      pure e
    | .known f name => do
      skip
      readKnown fuel f name
    | .name s isCall => do
      let isCall ← match isCall, (← get).kinds[s]? with
        | true, _ => isCalled s
        | false, some .function => pure (match (← get).tokens with
          | _ :: t :: _ => t.isWord "("
          | _ => false)
        | _, _ => pure false
      if isCall then
        discard (useAs .function s)
        let start := title t
        skip
        expect "("
        let args ← inside (readArgs fuel)
        let caller := match (← get).part with
          | .function name => some name
          | _ => none
        modify fun r => { r with calls := ⟨caller, s, args.map (·.2), start⟩ :: r.calls }
        pure (.call s (args.map (·.1)))
      else
        let l ← readLocation fuel
        pure (.location l)
    | .word w =>
      match w with
      | "$" => do
        let l ← readLocation fuel
        pure (.location l)
      | "!" => do
        skip
        let e ← readSum fuel 4
        pure (.not e)
      | "-" => do
        skip
        let e ← readSum fuel 4
        pure (.minus e)
      | "+" => do
        skip
        let e ← readSum fuel 4
        pure (.plus e)
      | "++" => do
        skip
        let l ← readLocation fuel
        pure (.count l true true)
      | "--" => do
        skip
        let l ← readLocation fuel
        pure (.count l false true)
      | "(" => do
        skip
        let es ← inside (readList fuel)
        expect ")"
        match es with
        | [e] => pure e
        | es => do
          expect "in"
          let table ← useAs .table (← readName)
          pure (.isKey es table)
      | "getline" => do
        skip
        let target ← readTarget fuel
        if ← accept "<" then
          let e ← readSum fuel 5
          pure (.next (.file e) target)
        else pure (.next .records target)
      | "match" => do
        skip
        expect "("
        let a ← inside (readExpr fuel)
        expect ","
        let p ← inside (readExpr fuel)
        expect ")"
        pure (.place a (← asPattern p))
      | "split" => do
        skip
        expect "("
        let a ← inside (readExpr fuel)
        expect ","
        let table ← useAs .table (← readName)
        let separator ← if ← accept "," then some <$> inside (readExpr fuel) else pure none
        expect ")"
        pure (.split a table separator)
      | "sub" => readSubstitution fuel false
      | "gsub" => readSubstitution fuel true
      | _ => fail
    | _ => fail

def readSubstitution (fuel : Nat) (isGlobal : Bool) : Reader Expr :=
  match fuel with
  | 0 => fail
  | fuel + 1 => do
    skip
    expect "("
    let p ← inside (readExpr fuel)
    expect ","
    let image ← inside (readExpr fuel)
    let target ← if ← accept "," then readLocation fuel else pure (.field (.number 0))
    expect ")"
    pure (.substitute isGlobal (← asPattern p) image target)

end

end Reader

end HostFleet.Utility.Records
