import HostFleet.Number.Random
import HostFleet.Utility.Calendar
import HostFleet.Utility.Child
import HostFleet.Utility.Records.Script
import HostFleet.Utility.Records.Pattern
import HostFleet.Utility.Records.Table
import HostFleet.Utility.Stream

/-!
# What a running script knows

The variables and tables, the record with its fields, and the files and commands that a script reads
and writes.
-/

namespace HostFleet.Utility.Records

open Machine

/-! ## Separators -/

/-- What stands between fields, or between records. -/
inductive Separator where
  /-- Spaces, which also surround the whole. -/
  | blanks
  /-- Nothing: every character is a field. -/
  | nothing
  | char (c : Char)
  | pattern (r : Regex)
  /-- Empty lines. -/
  | emptyLines
  deriving Inhabited

namespace Separator

def isBlank (c : Char) : Bool := c = ' ' || c = '\t' || c = '\n'

/-- The words between blanks. -/
def words (word : List Char) : List Char → List String
  | [] => if word.isEmpty then [] else [String.ofList word.reverse]
  | c :: rest =>
    if !isBlank c then words (c :: word) rest
    else if word.isEmpty then words [] rest
    else String.ofList word.reverse :: words [] rest

/-- The pieces between matches, as places from and to. -/
def pieces (text : Array Char) (start : Nat) : List Regex.Match → List String
  | [] => [String.ofList (text.extract start text.size).toList]
  | m :: rest => String.ofList (text.extract start m.start).toList :: pieces text m.stop rest

/-- The fields of a text. -/
def fields (s : Separator) (text : String) : List String :=
  if text.isEmpty then []
  else match s with
    | .nothing => text.toList.map String.singleton
    | .char c => text.splitOn (String.singleton c)
    | .pattern r =>
      let text := text.toList.toArray
      pieces text 0 ((r.allMatches {} text (text.size + 1) 0 none).filter fun m =>
        m.start != m.stop)
    | _ => words [] text.toList

/-- The first match from a place on that is not empty. -/
def firstSolid? (r : Regex) (text : Array Char) (fuel i : Nat) : Option Regex.Match :=
  match fuel with
  | 0 => none
  | fuel + 1 =>
    match r.search? {} text i with
    | none => none
    | some m => if m.start < m.stop then some m else firstSolid? r text fuel (m.start + 1)

/-- The first record of a text, and what follows it, if the record ends in the text. -/
def record? (s : Separator) (isOver : Bool) (text : String) : Option (String × String) :=
  let found : Option (Nat × Nat) := match s with
    | .emptyLines =>
      let cs := text.toList
      let rec find (i : Nat) : List Char → Option (Nat × Nat)
        | '\n' :: '\n' :: rest =>
          let more := (rest.takeWhile (· = '\n')).length
          if more = rest.length && !isOver then none else some (i, i + 2 + more)
        | _ :: rest => find (i + 1) rest
        | [] => none
      find 0 cs
    | .pattern r =>
      let cs := text.toList.toArray
      match firstSolid? r cs (cs.size + 1) 0 with
      | some m => if m.stop < cs.size || isOver then some (m.start, m.stop) else none
      | none => none
    | _ => none
  found.map fun (start, stop) =>
    (String.ofList (text.toList.take start), String.ofList (text.toList.drop stop))

/-- The separator of fields that a text describes; a fault in it if there is one. -/
def ofText (text : String) : Except Pattern.Fault Separator :=
  match text.toList with
  | [] => .ok .nothing
  | [' '] => .ok .blanks
  | [c] => .ok (.char c)
  | _ => (Pattern.read text).map .pattern

/-- The separator of records that a text describes. -/
def ofRecords (text : String) : Except Pattern.Fault Separator :=
  match text.toList with
  | [] => .ok .emptyLines
  | [c] => .ok (.char c)
  | _ => (Pattern.read text).map .pattern

end Separator

/-! ## Files and commands -/

/-- Something that records are read from. -/
structure Input where
  fd : Nat
  /-- The command that writes there. -/
  child : Option Nat := none
  /-- Records that were found already, and the character that ends them. -/
  ready : List String := []
  stop : Char := '\n'
  rest : String := ""
  isOver : Bool := false

namespace Input

/-- The input as one text, with the records that were found already. -/
def joined (i : Input) : Input :=
  if i.ready.isEmpty then i
  else { i with
    ready := []
    rest := String.join (i.ready.map fun r => r.push i.stop) ++ i.rest }

/-- The next record. -/
def next (s : Separator) (fuel : Nat) (i : Input) :
    Program (Except OsError (Option String) × Input) :=
  match fuel with
  | 0 => pure (.ok none, i)
  | fuel + 1 => do
    let more (i : Input) : Program (Except OsError (Option String) × Input) := do
      match ← Program.read i.fd with
      | .error e => pure (.error e, i)
      | .ok "" => next s fuel { i with isOver := true }
      | .ok text => next s fuel { i with rest := i.rest ++ text }
    match s with
    | .char c =>
      let i := if i.stop = c then i else { i.joined with stop := c }
      match i.ready with
      | r :: ready => pure (.ok (some r), { i with ready := ready })
      | [] =>
        let (lines, rest) := takeLines c i.rest
        match lines with
        | l :: lines =>
          pure (.ok (some l.text), { i with ready := lines.map (·.text), rest := rest })
        | [] =>
          if !i.isOver then more i
          else if rest.isEmpty then pure (.ok none, i)
          else pure (.ok (some rest), { i with rest := "" })
    | s =>
      let i := i.joined
      let i := match s with
        | .emptyLines => { i with rest := String.ofList (i.rest.toList.dropWhile (· = '\n')) }
        | _ => i
      match s.record? i.isOver i.rest with
      | some (r, rest) => pure (.ok (some r), { i with rest := rest })
      | none =>
        if !i.isOver then more i
        else if i.rest.isEmpty then pure (.ok none, i)
        else
          let last := match s with
            | .emptyLines =>
              if i.rest.endsWith "\n" then String.ofList i.rest.toList.dropLast else i.rest
            | _ => i.rest
          pure (.ok (some last), { i with rest := "" })

end Input

/-- Something that output goes to. -/
structure Output where
  channel : Channel
  name : String
  fd : Nat
  child : Option Nat := none
  held : Held := {}

/-! ## The state -/

/-- A parameter: a value, or a table by its number. -/
inductive Slot where
  | value (v : Value)
  | table (n : Nat)
  deriving Inhabited

/-- The record at hand. Its fields are found when they are asked for. -/
structure Record where
  whole : Value := .given ""
  fields : Array Value := #[]
  isSplit : Bool := true

structure State where
  globals : Std.HashMap String Value := {}
  /-- The tables, and the numbers of those that are no parameters. -/
  tables : Array Table := #[]
  numbers : Std.HashMap String Nat := {}
  parameters : Array Slot := #[]
  record : Record := {}
  separator : Separator := .blanks
  boundary : Separator := .char '\n'
  /-- The argument that comes next, the file that is read, and whether there was one. -/
  argument : Nat := 1
  main : Option Input := none
  hasRead : Bool := false
  isOver : Bool := false
  /-- The files and commands that are read, which are marked. -/
  inputs : List ((Bool × String) × Input) := []
  /-- The files and commands that are written, last used first. -/
  outputs : List Output := []
  /-- The output that is put aside. -/
  held : Held := {}
  /-- Which of the rules for spans have begun. -/
  active : Array Bool := #[]
  /-- The patterns that were read already. -/
  patterns : Std.HashMap String Regex := {}
  seed : Value
  generator : Generator
  code : Nat := 0

/-- What ends a statement before its end. -/
inductive Halt where
  | leaveLoop
  | nextTurn
  | nextRecord
  | nextFile
  | stop
  | result (v : Value)
  /-- A fault, and whether it is told where it happened. -/
  | fault (message : String) (isLocated : Bool)

/-- A piece of a running script. -/
abbrev Work := ExceptT Halt (StateT State Program)

namespace Work

/-- Goes through a piece of a script in a state. -/
def begin {α : Type} (w : Work α) (s : State) : Program (Except Halt α × State) :=
  (ExceptT.run w).run s

def ask {α : Type} (p : Program α) : Work α := liftM p

def located {α : Type} (message : String) : Work α := throw (.fault message true)

/-! ## Numbers and texts -/

def variable' (name : String) : Work Value := do
  pure (((← get).globals[name]?).getD .missing)

/-- The template for numbers in texts. -/
def template : Work String := do
  pure ((← variable' "CONVFMT").toText "%.6g")

def textOf (v : Value) : Work String := do
  match v with
  | .number x => if isPlain x then pure (wholeText x) else pure (numberText (← template) x)
  | .missing => pure ""
  | .text s => pure s
  | .given s => pure s

def putVariable (name : String) (v : Value) : Work Unit :=
  modify fun s => { s with globals := s.globals.insert name v }

/-- The pattern that a text spells. -/
def patternOf (text : String) : Work Regex := do
  match (← get).patterns[text]? with
  | some r => pure r
  | none =>
    match Pattern.read text with
    | .ok r => do
      modify fun s => { s with patterns := s.patterns.insert text r }
      pure r
    | .error e =>
      located ("regular expression compile failed (" ++ e.message ++ ")\n" ++ text)

def separatorOf (read : String → Except Pattern.Fault Separator) (text : String) :
    Work Separator := do
  match read text with
  | .ok s => pure s
  | .error e => located ("regular expression compile failed (" ++ e.message ++ ")\n" ++ text)

/-! ## The record -/

/-- Finds the fields of the record. -/
def splitRecord : Work Unit := do
  let s ← get
  if s.record.isSplit then pure ()
  else
    let text ← textOf s.record.whole
    let fields := (s.separator.fields text).map Value.given
    set { s with record := { s.record with fields := fields.toArray, isSplit := true } }

def setRecord (text : String) : Work Unit :=
  modify fun s => { s with record := { whole := .given text, isSplit := false } }

/-- Makes the record anew from its fields. -/
def joinRecord (fields : Array Value) : Work Unit := do
  let between ← textOf (← variable' "OFS")
  let texts ← fields.toList.mapM textOf
  modify fun s => { s with record :=
    { whole := .given (between.intercalate texts), fields := fields, isSplit := true } }

/-- More fields than a record can have. -/
def fieldLimit : Nat := Nat.pow 2 22

/-- The fields, so many of them. -/
def resized (fields : Array Value) (count : Nat) : Array Value :=
  if count ≤ fields.size then fields.extract 0 count
  else fields ++ Array.replicate (count - fields.size) .missing

def field (n : Nat) : Work Value := do
  if n = 0 then pure (← get).record.whole
  else
    splitRecord
    pure (((← get).record.fields[n - 1]?).getD .missing)

def putField (n : Nat) (v : Value) : Work Unit := do
  if n = 0 then setRecord (← textOf v)
  else
    splitRecord
    let fields := (← get).record.fields
    if n < fieldLimit then
      joinRecord ((resized fields (max fields.size n)).setIfInBounds (n - 1) v)

def putFieldCount (v : Value) : Work Unit := do
  let n := toInt v.toNumber
  if n < 0 then located "negative value assigned to NF"
  splitRecord
  joinRecord (resized (← get).record.fields (min n.toNat fieldLimit))

/-! ## Variables -/

def read (v : Variable) : Work Value := do
  match v with
  | .global "NF" => do
    splitRecord
    pure (.ofNat (← get).record.fields.size)
  | .global name => variable' name
  | .parameter i =>
    match (← get).parameters[i]? with
    | some (.value v) => pure v
    | _ => pure .missing

def write (v : Variable) (value : Value) : Work Unit := do
  match v with
  | .global "NF" => putFieldCount value
  | .global "FS" => do
    splitRecord
    putVariable "FS" value
    let separator ← separatorOf Separator.ofText (← textOf value)
    modify fun s => { s with separator := separator }
  | .global "RS" => do
    splitRecord
    putVariable "RS" value
    let boundary ← separatorOf Separator.ofRecords (← textOf value)
    modify fun s => { s with boundary := boundary }
  | .global name => putVariable name value
  | .parameter i =>
    modify fun s => { s with parameters := s.parameters.setIfInBounds i (.value value) }

/-! ## Tables -/

/-- Makes a table of its own. -/
def newTable : Work Nat := do
  let s ← get
  set { s with tables := s.tables.push {} }
  pure s.tables.size

/-- The number of a table. -/
def tableOf (v : Variable) : Work Nat := do
  let s ← get
  match v with
  | .global name =>
    match s.numbers[name]? with
    | some n => pure n
    | none => do
      let n ← newTable
      modify fun s => { s with numbers := s.numbers.insert name n }
      pure n
  | .parameter i =>
    match s.parameters[i]? with
    | some (.table n) => pure n
    | _ => do
      let n ← newTable
      modify fun s => { s with parameters := s.parameters.setIfInBounds i (.table n) }
      pure n

/-- Does something to a table. -/
def changeTable {α : Type} (n : Nat) (change : Table → α × Table) : Work (Option α) := do
  let s ← get
  match s.tables[n]? with
  | none => pure none
  | some t =>
    let s := { s with tables := s.tables.setIfInBounds n {} }
    let (a, t) := change t
    set { s with tables := s.tables.setIfInBounds n t }
    pure (some a)

/-- The key that a value is. -/
def keyOf (v : Value) : Work Key := do
  match v with
  | .number x =>
    if isWhole x && (-9223372036854775808.0 : Float) ≤ x && x < (9223372036854775808.0 : Float) then
      pure (.number x.toInt64.toInt)
    else pure (.text (← textOf v))
  | v => pure (.text (← textOf v))

def element (n : Nat) (key : Key) : Work Value := do
  let v ← changeTable n fun t =>
    let (_, t) := t.use key true
    (t.get key, t)
  pure (v.getD .missing)

def putElement (n : Nat) (key : Key) (v : Value) : Work Unit :=
  discard (changeTable n fun t =>
    let (_, t) := t.use key true
    ((), t.set key v))

end Work

end HostFleet.Utility.Records
