import HostFleet.Utility.Records.Reader.Expression

/-!
# Reading statements

The statements that tokens spell.
-/

namespace HostFleet.Utility.Records

namespace Reader

/-- An expression in parentheses. -/
def readCondition (fuel : Nat) : Reader Expr := do
  expect "("
  let e ← inside (readExpr fuel)
  expect ")"
  pure e

/-- Where output goes, if something is said about that. -/
def readOutput (fuel : Nat) : Reader (Option (Channel × Expr)) := do
  modify fun s => { s with prints := false }
  let channel? : Option Channel := match (← peek).kind with
    | .word ">" => some .file
    | .word ">>" => some .addition
    | .word "|" => some .command
    | _ => none
  match channel? with
  | none => pure none
  | some channel => do
    skip
    let e ← readExpr fuel
    pure (some (channel, e))

/-- What is printed: expressions, which can stand in parentheses. -/
def readPrinted (fuel : Nat) : Reader (List Expr) := do
  let t ← peek
  if isSeparator t || t.isWord ">" || t.isWord ">>" || t.isWord "|" then pure []
  else
    modify fun s => { s with prints := true }
    let start ← get
    let grouped ← if !t.isWord "(" then pure [] else do
      skip
      let es ← inside (readList fuel)
      expect ")"
      let isKey ← isAt "in"
      pure (if isKey then [] else es)
    if 1 < grouped.length then pure grouped
    else do
      set start
      readList fuel

/-- Passes over a broken statement. -/
def recover (fuel : Nat) : Reader Unit :=
  match fuel with
  | 0 => pure ()
  | fuel + 1 => do
    let t ← peek
    match t.kind with
    | .finish => do
      modify fun s => { s with isOver := true }
      throw ()
    | _ =>
      if isSeparator t then
        skip
        modify fun s => { s with quiet := 0, lost := t.parentheses }
      else
        modify fun s => { s with tokens := s.tokens.tail }
        settle 1000
        recover fuel

/-- Something that is repeated. -/
def inLoop {α : Type} (r : Reader α) : Reader α := do
  modify fun s => { s with loops := s.loops + 1 }
  let a ← r
  modify fun s => { s with loops := s.loops - 1 }
  pure a

/-- The variable and the table of a loop over keys, if such a loop stands here. -/
def eachHeader? : Reader (Option (String × String)) := do
  match (← get).tokens.take 4 |>.map Token.kind with
  | [.name v _, .word "in", .name table _, .word ")"] => pure (some (v, table))
  | _ => pure none

mutual

def readStatement (fuel : Nat) : Reader Statement :=
  match fuel with
  | 0 => fail
  | fuel + 1 => do
    let t ← peek
    let ended (s : Statement) : Reader Statement := do
      separator
      pure s
    match t.kind with
    | .word w =>
      match w with
      | "\x7b" => readBlock fuel
      | ";" => do
        skip
        pure .nothing
      | "if" => do
        skip
        let e ← readCondition fuel
        skipLines
        let a ← readStatement fuel
        if ← accept "else" then
          let b ← readStatement fuel
          pure (.branch e a b)
        else pure (.branch e a .nothing)
      | "while" => do
        skip
        let e ← readCondition fuel
        skipLines
        let body ← inLoop (readStatement fuel)
        pure (.loop true (some e) .nothing body)
      | "do" => do
        skip
        let body ← inLoop (readStatement fuel)
        expect "while"
        let e ← readCondition fuel
        ended (.loop false (some e) .nothing body)
      | "for" => do
        skip
        expect "("
        match ← eachHeader? with
        | some (v, table) => do
          let v ← useAs .variable v
          let table ← useAs .table table
          skip
          skip
          skip
          skip
          skipLines
          let body ← inLoop (readStatement fuel)
          pure (.each v table body)
        | none => do
          let header (stop : String) : Reader Statement := do
            if ← isAt stop then pure .nothing else Statement.expr <$> inside (readExpr fuel)
          let first ← header ";"
          expect ";"
          let e ← if ← isAt ";" then pure none else some <$> inside (readExpr fuel)
          expect ";"
          let step ← header ")"
          expect ")"
          skipLines
          let body ← inLoop (readStatement fuel)
          pure (.sequence first (.loop true e step body))
      | "print" => do
        skip
        let es ← readPrinted fuel
        let target ← readOutput fuel
        ended (.print es target)
      | "printf" => do
        skip
        let es ← readPrinted fuel
        if es.isEmpty then complainHere "no arguments in call to printf"
        let target ← readOutput fuel
        ended (.printTemplate es target)
      | "delete" => do
        skip
        let table ← useAs .table (← readName)
        if ← accept "[" then
          let keys ← inside (readList fuel)
          expect "]"
          ended (.delete table (some keys))
        else ended (.delete table none)
      | "break" => do
        if (← get).loops = 0 then complainHere "break statement outside of loop"
        skip
        ended .leaveLoop
      | "continue" => do
        if (← get).loops = 0 then complainHere "continue statement outside of loop"
        skip
        ended .nextTurn
      | "next" => do
        if (← get).part != .rule then complainHere "improper use of next"
        skip
        ended .nextRecord
      | "nextfile" => do
        if (← get).part != .rule then complainHere "improper use of next"
        skip
        ended .nextFile
      | "exit" => do
        skip
        let e ← if isSeparator (← peek) then pure none else some <$> readExpr fuel
        ended (.stop e)
      | "return" => do
        let isInside := match (← get).part with
          | .function _ => true
          | _ => false
        if !isInside then complainHere "return outside function body"
        skip
        let e ← if isSeparator (← peek) then pure none else some <$> readExpr fuel
        ended (.result e)
      | _ => do
        let e ← readExpr fuel
        ended (.expr e)
    | .newline => do
      skip
      pure .nothing
    | .supplied => do
      skip
      pure .nothing
    | _ => do
      let e ← readExpr fuel
      ended (.expr e)

/-- Statements in braces. -/
def readBlock (fuel : Nat) : Reader Statement :=
  match fuel with
  | 0 => fail
  | fuel + 1 => do
    expect "\x7b"
    readStatements fuel

/-- The statements up to the closing brace. -/
def readStatements (fuel : Nat) : Reader Statement :=
  match fuel with
  | 0 => fail
  | fuel + 1 => do
    if ← accept "\x7d" then pure .nothing
    else
      let loops := (← get).loops
      let s ← tryCatch (readStatement fuel) fun _ => do
        if (← get).isOver then throw ()
        modify fun r => { r with loops := loops, prints := false }
        recover (← get).tokens.length
        pure .nothing
      let rest ← readStatements fuel
      pure (.sequence s rest)

end

end Reader

end HostFleet.Utility.Records
