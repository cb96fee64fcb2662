import HostFleet.Document.Toml.Scalar
import HostFleet.Document.Toml.Table
import HostFleet.Text.Utf8

/-!
# Reading TOML

A text is a list of lines, each of which opens a table or sets a value. The result is a record.
-/

namespace HostFleet.Toml

mutual

/-- The value at the front, and what follows it. -/
def value? (depth : Nat) (cs : List Char) : Option (Document × List Char) :=
  match cs, depth with
  | '[' :: _, 0 => none
  | '\x7b' :: _, 0 => none
  | '[' :: rest, depth + 1 => items? depth [] rest
  | '\x7b' :: rest, depth + 1 => fields? depth [] rest
  | _, _ =>
    if cs.head? = some '\x22' || cs.head? = some '\x27' then
      (text? cs).map fun (s, rest) => (.text (String.ofList s), rest)
    else scalar? cs
termination_by (depth, 0, cs.length)

/-- The rest of a list whose first items have been read. -/
def items? (depth : Nat) (done : List Document) (cs : List Char) :
    Option (Document × List Char) :=
  match skipFiller false cs with
  | ']' :: rest => some (.list done, rest)
  | start =>
    match value? depth start with
    | none => none
    | some (d, rest) =>
      match skipFiller false rest with
      | ']' :: rest => some (.list (done ++ [d]), rest)
      | ',' :: rest =>
        if _h : rest.length < cs.length then items? depth (done ++ [d]) rest else none
      | _ => none
termination_by (depth, 1, cs.length)

/-- The rest of a table in braces whose first members have been read. -/
def fields? (depth : Nat) (done : Members) (cs : List Char) : Option (Document × List Char) :=
  match skipFiller false cs with
  | '\x7d' :: rest => some (.record (closeMembers done), rest)
  | start =>
    match key? start with
    | none => none
    | some (path, rest) =>
      match (expect? '=' (skipFiller false rest)).bind fun rest =>
          value? depth (skipFiller false rest) with
      | none => none
      | some (d, rest) =>
        match done.put? d path with
        | none => none
        | some done =>
          match skipFiller false rest with
          | '\x7d' :: rest => some (.record (closeMembers done), rest)
          | ',' :: rest =>
            if _h : rest.length < cs.length then fields? depth done rest else none
          | _ => none
termination_by (depth, 1, cs.length)

end

/-- What one line of a text does. -/
inductive Line where
  | blank
  | openTable (path : List String)
  | openNext (path : List String)
  | put (path : List String) (d : Document)

/-- The line at the front, and what follows it, without its end. -/
def line? (cs : List Char) : Option (Line × List Char) :=
  match skipSpaces cs with
  | [] => some (.blank, [])
  | '[' :: '[' :: rest => do
    let (path, rest) ← key? (skipSpaces rest)
    let rest ← expect? ']' (← expect? ']' (skipSpaces rest))
    some (.openNext path, rest)
  | '[' :: rest => do
    let (path, rest) ← key? (skipSpaces rest)
    some (.openTable path, ← expect? ']' (skipSpaces rest))
  | c :: rest =>
    if c = '#' || c = '\n' || c = '\r' then some (.blank, c :: rest)
    else do
      let (path, rest) ← key? (c :: rest)
      let (d, rest) ← value? maxDepth (skipSpaces (← expect? '=' (skipSpaces rest)))
      some (.put path d, rest)

/-- All lines of a text. -/
def lines? (cs : List Char) : Option (List Line) :=
  if cs.isEmpty then some []
  else match line? cs with
    | none => none
    | some (line, rest) =>
      match lineEnd? rest with
      | none => none
      | some rest =>
        if _h : rest.length < cs.length then (lines? rest).map (line :: ·) else none
termination_by cs.length

/-- The tables after one more line, and the path of the table that is open then. -/
def Line.apply? (s : Members × List String) : Line → Option (Members × List String)
  | .blank => some s
  | .openTable path => (s.1.openTable? path).map fun ms => (ms, path)
  | .openNext path => (s.1.openNext? path).map fun ms => (ms, path)
  | .put path d => (s.1.within? (fun ms => ms.put? d path) s.2).map fun ms => (ms, s.2)

/-- Leaves out the mark of the byte order at the front. -/
def skipMark : List Char → List Char
  | '\ufeff' :: rest => rest
  | cs => cs

/-- The record that a TOML text spells. -/
def read? (s : String) : Option Document := do
  let lines ← lines? (skipMark s.toList)
  let (ms, _) ← lines.foldlM Line.apply? ([], [])
  some (.record (closeMembers ms))

end HostFleet.Toml
