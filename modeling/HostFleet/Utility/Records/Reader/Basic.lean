import HostFleet.Utility.Records.Token

/-!
# Reading tokens

What is known while a script is read, how tokens are taken, and what names are used as. What is
wrong with a script is collected: behind a fault, reading goes on with the next statement.
-/

namespace HostFleet.Utility.Records

/-- What a name stands for. -/
inductive NameKind where
  | variable
  | table
  | function
  deriving DecidableEq, Repr

/-- A call of a function, with those arguments that are only a name. -/
structure CallSite where
  caller : Option String
  name : String
  args : List (Option Variable)
  title : String

/-- Which part of a script is read. -/
inductive ScriptPart where
  | outside
  | rule
  | function (name : String)
  deriving DecidableEq

structure Reading where
  tokens : List Token
  /-- The messages about faults, last one first. -/
  faults : List String := []
  /-- How many tokens have to be taken before a new fault counts. -/
  quiet : Nat := 0
  /-- How many parentheses were given up. -/
  lost : Nat := 0
  /-- Whether nothing more can be read. -/
  isOver : Bool := false
  kinds : Std.HashMap String NameKind := {}
  parameters : List String := []
  /-- What the parameters are used as. -/
  uses : List (Option NameKind) := []
  script : Script := {}
  calls : List CallSite := []
  part : ScriptPart := .outside
  loops : Nat := 0
  /-- Whether signs of output end an expression. -/
  prints : Bool := false

/-- A reader fails where a script is broken. -/
abbrev Reader := ExceptT Unit (StateM Reading)

namespace Reader

/-! ## Faults -/

/-- Where a token stands, as messages begin. -/
def title (t : Token) : String :=
  (match t.file with
    | some name => name ++ ": "
    | none => "") ++ "line " ++ toString t.line ++ ": "

def complain (message : String) : Reader Unit :=
  modify fun s => { s with faults := message :: s.faults }

def peek : Reader Token := do
  pure (((← get).tokens.head?).getD default)

/-- Complains about the place that is read. -/
def complainHere (message : String) : Reader Unit := do
  complain (title (← peek) ++ message)

/-- What is wrong with a token that cannot stand where it does. -/
def faultAt (lost : Nat) (t : Token) : String :=
  let isEnd := match t.kind with
    | .newline => true
    | .supplied => true
    | .word s => s = ";" || s = "\x7d"
    | _ => false
  match t.kind with
  | .stray c =>
    (match t.file with
      | some name => name ++ ": "
      | none => "") ++ toString t.line ++ ": unexpected character '" ++ String.singleton c ++ "'"
  | .runaway s => title t ++ s
  | .finish =>
    title t ++ (if 0 < t.braces then "missing \x7d near end of file"
      else if lost < t.parentheses then "missing ) near end of file"
      else "syntax error at or near end of file")
  | _ =>
    if isEnd && lost < t.parentheses then title t ++ "missing ) near " ++ t.shown
    else title t ++ "syntax error at or near " ++ t.shown

def fail {α : Type} : Reader α := do
  let t ← peek
  let isFinal := match t.kind with
    | .stray _ => true
    | .runaway _ => true
    | _ => false
  if (← get).quiet = 0 || isFinal then complain (faultAt (← get).lost t)
  modify fun s => { s with quiet := 3, isOver := s.isOver || isFinal }
  throw ()

/-! ## Tokens -/

/-- Leaves out what closes nothing. -/
def settle (fuel : Nat) : Reader Unit :=
  match fuel with
  | 0 => pure ()
  | fuel + 1 => do
    let t ← peek
    match t.kind with
    | .extra c => do
      complain (title t ++ "extra '" ++ String.singleton c ++ "'")
      modify fun s => { s with tokens := s.tokens.tail }
      settle fuel
    | _ => pure ()

def skip : Reader Unit := do
  modify fun s => { s with tokens := if s.tokens.length ≤ 1 then s.tokens else s.tokens.tail
                           quiet := s.quiet - 1 }
  settle 1000

def isAt (s : String) : Reader Bool := do
  pure ((← peek).isWord s)

/-- Takes a sign if it is there. -/
def accept (s : String) : Reader Bool := do
  if ← isAt s then
    skip
    pure true
  else pure false

def expect (s : String) : Reader Unit := do
  if ← accept s then pure () else fail

def skipLines : Reader Unit := do
  match (← peek).kind with
  | .newline => skip
  | _ => pure ()

/-- Whether a statement can end here. -/
def isSeparator (t : Token) : Bool :=
  match t.kind with
  | .newline => true
  | .supplied => true
  | .word s => s == ";"
  | _ => false

def separator : Reader Unit := do
  if isSeparator (← peek) then skip else fail

/-! ## Names -/

def kindText : NameKind → String
  | .variable => "variable"
  | .table => "array"
  | .function => "function"

/-- Uses a name as what it stands for. -/
def useAs (kind : NameKind) (name : String) : Reader Variable := do
  let s ← get
  match s.parameters.idxOf? name with
  | some i =>
    match s.uses.getD i none with
    | some known =>
      if known != kind then
        complainHere ("illegal reference to local " ++ kindText known ++ " " ++ name)
    | none => set { s with uses := s.uses.set i (some kind) }
    pure (.parameter i)
  | none => do
    match s.kinds[name]? with
    | some known =>
      if known != kind then complainHere ("illegal reference to " ++ kindText known ++ " " ++ name)
    | none => set { s with kinds := s.kinds.insert name kind }
    pure (.global name)

/-- A name without telling what it stands for. -/
def bare (name : String) : Reader Variable := do
  match (← get).parameters.idxOf? name with
  | some i => pure (.parameter i)
  | none => pure (.global name)

/-- Whether a name that stands in front of a parenthesis is called. -/
def isCalled (name : String) : Reader Bool := do
  let s ← get
  pure (!s.parameters.contains name && match s.kinds[name]? with
    | some .function => true
    | some _ => false
    | none => true)

/-- A name, which has to stand here. -/
def readName : Reader String := do
  match (← peek).kind with
  | .name s _ => do
    skip
    pure s
  | _ => fail

end Reader

end HostFleet.Utility.Records
