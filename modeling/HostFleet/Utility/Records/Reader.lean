import HostFleet.Utility.Records.Reader.Statement

/-!
# Reading scripts

The rules and functions that tokens spell, and whole scripts.
-/

namespace HostFleet.Utility.Records

namespace Reader

/-! ## Rules and functions -/

def addScript (change : Script → Script) : Reader Unit :=
  modify fun s => { s with script := change s.script }

/-- The parameters of a function up to the closing parenthesis. -/
def readParameters (fuel : Nat) (name : String) (done : List String) : Reader (List String) :=
  match fuel with
  | 0 => fail
  | fuel + 1 => do
    let t ← peek
    let p ← readName
    if p = name then
      complain (title t ++ "function parameter cannot be the function")
      modify fun s => { s with tokens := t :: s.tokens }
      fail
    if done.contains p then complain (title t ++ p ++ " is duplicated in argument list")
    if ← accept "," then readParameters fuel name (p :: done)
    else
      expect ")"
      pure (p :: done).reverse

def readFunction (fuel : Nat) : Reader Unit := do
  skip
  let t ← peek
  let name ← readName
  match (← get).kinds[name]? with
  | some .function =>
    if (← get).script.functions.contains name then complain (title t ++ "redefinition of " ++ name)
  | some known => complain (title t ++ "illegal reference to " ++ kindText known ++ " " ++ name)
  | none => modify fun s => { s with kinds := s.kinds.insert name .function }
  expect "("
  let parameters ← if ← accept ")" then pure [] else readParameters fuel name []
  skipLines
  addScript fun s => { s with functions := s.functions.insert name { parameters := parameters } }
  modify fun s => { s with
    part := .function name, parameters := parameters, uses := parameters.map fun _ => none }
  let body ← readBlock fuel
  let uses := (← get).uses
  let function : Function :=
    { parameters := parameters
      tables := uses.map (· == some .table)
      values := uses.map (· == some .variable)
      body := body }
  modify fun s => { s with part := .outside, parameters := [], uses := [] }
  addScript fun s => { s with functions := s.functions.insert name function }

/-- What is done with a record, or nothing if that is not said. -/
def readAction (fuel : Nat) : Reader (Option Statement) := do
  if ← isAt "\x7b" then
    modify fun s => { s with part := .rule }
    let body ← readBlock fuel
    modify fun s => { s with part := .outside }
    pure (some body)
  else
    separator
    pure none

/-- One rule or function. -/
def readItem (fuel : Nat) : Reader Unit := do
  if ← accept "BEGIN" then
    let body ← readBlock fuel
    addScript fun s => { s with first := s.first ++ [body] }
  else if ← accept "END" then
    let body ← readBlock fuel
    addScript fun s => { s with last := s.last ++ [body] }
  else if ← isAt "function" then readFunction fuel
  else
    let selector ← if ← isAt "\x7b" then pure .all else do
      let e ← readExpr fuel
      if ← accept "," then
        let last ← readExpr fuel
        pure (.span e last)
      else pure (.one e)
    let action ← readAction fuel
    addScript fun s => { s with rules := s.rules.push ⟨selector, action⟩ }

/-- Passes over a broken item up to the block behind it. -/
def recoverItem (fuel : Nat) : Reader Unit :=
  match fuel with
  | 0 => pure ()
  | fuel + 1 => do
    let t ← peek
    if t.isWord "\x7b" then pure ()
    else match t.kind with
      | .finish => modify fun s => { s with isOver := true }
      | _ => do
        modify fun s => { s with tokens := s.tokens.tail }
        settle 1000
        recoverItem fuel

/-- All rules and functions of a file. -/
def readItems (fuel turns : Nat) : Reader Unit :=
  match turns with
  | 0 => pure ()
  | turns + 1 => do
    match (← peek).kind with
    | .finish => pure ()
    | _ => do
      tryCatch (readItem fuel) fun _ => do
        modify fun s => { s with
          part := .outside, parameters := [], uses := [], loops := 0, prints := false }
        if (← get).isOver then pure ()
        else
          recoverItem (← get).tokens.length
          if (← get).isOver then pure ()
          else tryCatch (discard (readBlock fuel)) fun _ => pure ()
      if (← get).isOver || 5 ≤ (← get).faults.length then pure () else readItems fuel turns

end Reader

/-! ## Whole scripts -/

namespace CallSite

/-- Whether an argument is a table, as far as that is known. -/
def isTable (s : Script) (caller : Option String) : Option Variable → Bool
  | some (.global name) => s.tables.contains name
  | some (.parameter i) =>
    match caller.bind fun name => s.functions[name]? with
    | some f => f.tables.getD i false
    | none => false
  | none => false

/-- Makes a variable a table. -/
def makeTable (s : Script) (caller : Option String) : Option Variable → Script
  | some (.global name) =>
    if s.tables.contains name then s else { s with tables := name :: s.tables }
  | some (.parameter i) =>
    match caller with
    | some name => { s with functions := s.functions.modify name fun f =>
        { f with tables := f.tables.set i true } }
    | none => s
  | none => s

/-- What a call tells about its arguments and the parameters of the function. -/
def spread (s : Script) (site : CallSite) : Script :=
  match s.functions[site.name]? with
  | none => s
  | some f =>
    (site.args.zip (List.range site.args.length)).foldl (fun s (arg, i) =>
      if f.tables.getD i false then makeTable s site.caller arg
      else if isTable s site.caller arg && !f.values.getD i false then
        { s with functions := s.functions.modify site.name fun f =>
            { f with tables := f.tables.set i true } }
      else s) s

def spreadAll (fuel : Nat) (sites : List CallSite) (s : Script) : Script :=
  match fuel with
  | 0 => s
  | fuel + 1 => spreadAll fuel sites (sites.foldl spread s)

/-- What is wrong with a call. -/
def faults (s : Script) (kinds : Std.HashMap String NameKind) (line : String) (site : CallSite) :
    List String :=
  match s.functions[site.name]? with
  | none => [line ++ "function " ++ site.name ++ " never defined"]
  | some f =>
    if f.parameters.length < site.args.length then
      [site.title ++ "too many arguments in call to " ++ site.name]
    else
      (site.args.zip (List.range site.args.length)).filterMap fun (arg, i) =>
        let isPlain := match arg with
          | none => true
          | some (.global name) => kinds[name]? == some .variable
          | some (.parameter _) => false
        let message (actual formal : String) : String :=
          site.title ++ "type error in arg(" ++ toString (i + 1) ++ ") in call to " ++ site.name
            ++ " (actual local " ++ actual ++ " vs local " ++ formal ++ ")"
        if f.tables.getD i false && isPlain then some (message "variable" "array")
        else if f.values.getD i false && isTable s site.caller arg then
          some (message "array" "variable")
        else none

end CallSite

/-- The variables that every script has, apart from those that are tables. -/
def ownVariables : List String :=
  ["NR", "FNR", "ARGC", "FILENAME", "OFS", "ORS", "RLENGTH", "RSTART", "SUBSEP", "CONVFMT", "NF",
    "FS", "RS", "OFMT"]

/-- The script that pieces spell, each of which may stand in a file, or the messages about what is
wrong with it. -/
def Script.read (pieces : List (Option String × String)) : Except (List String) Script :=
  let kinds : Std.HashMap String NameKind :=
    .ofList (ownVariables.map (fun name => (name, NameKind.variable))
      ++ [("ENVIRON", .table), ("ARGV", .table)])
  let s := pieces.foldl (fun (s : Reading) (file, text) =>
    if s.isOver then s
    else
      let tokens := Token.ofText file text
      let fuel := 20 * tokens.length + 100
      ((do
        Reader.settle tokens.length
        Reader.readItems fuel tokens.length : Reader Unit).run { s with tokens := tokens }).2)
    { tokens := [], kinds := kinds }
  let lastTitle := Reader.title (((s.tokens.getLast?).getD default))
  let tables := (s.kinds.toList.filter fun entry => entry.2 == .table).map (·.1)
  let script := CallSite.spreadAll (s.calls.length + 1) s.calls { s.script with tables := tables }
  let faults := s.faults.reverse
  if !faults.isEmpty then .error (faults.take 5)
  else
    let late := s.calls.flatMap (CallSite.faults script s.kinds lastTitle)
    if late.isEmpty then .ok script else .error (late.eraseDups.take 5)

end HostFleet.Utility.Records
