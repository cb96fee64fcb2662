import HostFleet.Document.Basic

/-!
# Tables under construction

The lines of a TOML text open tables and put values into them. A table remembers how it came
about, because that decides what later lines may add to it: no key is set twice, no table is
opened twice, and what a value holds is closed.
-/

namespace HostFleet.Toml

/-- How a table came about. -/
inductive Origin where
  /-- A header of its own, or the top of the text. -/
  | opened
  /-- The header of a table inside it. -/
  | implied
  /-- The dots of a key. -/
  | dotted
  deriving DecidableEq

inductive Node where
  | value (d : Document)
  | table (origin : Origin) (members : List (String × Node))
  /-- A list of tables. Lines add to the last one. -/
  | tables (earlier : List Document) (last : List (String × Node))

abbrev Members := List (String × Node)

mutual

def Node.toDocument : Node → Document
  | .value d => d
  | .table _ members => .record (closeMembers members)
  | .tables earlier last => .list (earlier ++ [.record (closeMembers last)])

def closeMembers : List (String × Node) → List (String × Document)
  | [] => []
  | (key, node) :: rest => (key, node.toDocument) :: closeMembers rest

end

namespace Members

def find? (ms : Members) (key : String) : Option Node := List.lookup key ms

/-- Puts a node in the place of the one with this key, or at the end. -/
def set (ms : Members) (key : String) (n : Node) : Members :=
  if (ms.find? key).isSome then ms.map fun m => if m.1 = key then (key, n) else m
  else ms ++ [(key, n)]

/-- Sets a value under a key with dots, if nothing is there yet. Tables that a header opened are
not entered, nor are lists of them. -/
def put? (ms : Members) (d : Document) : List String → Option Members
  | [] => none
  | [key] => if (ms.find? key).isSome then none else some (ms.set key (.value d))
  | key :: rest =>
    match ms.find? key with
    | none => (put? [] d rest).map fun inner => ms.set key (.table .dotted inner)
    | some (.table .opened _) => none
    | some (.table origin inner) =>
      (put? inner d rest).map fun inner => ms.set key (.table origin inner)
    | some (.tables _ _) => none
    | some (.value _) => none

/-- Opens the table of a header. -/
def openTable? (ms : Members) : List String → Option Members
  | [] => none
  | [key] =>
    match ms.find? key with
    | none => some (ms.set key (.table .opened []))
    | some (.table .implied inner) => some (ms.set key (.table .opened inner))
    | some _ => none
  | key :: rest =>
    match ms.find? key with
    | none => (openTable? [] rest).map fun inner => ms.set key (.table .implied inner)
    | some (.table origin inner) =>
      (openTable? inner rest).map fun inner => ms.set key (.table origin inner)
    | some (.tables earlier last) =>
      (openTable? last rest).map fun last => ms.set key (.tables earlier last)
    | some (.value _) => none

/-- Opens one more table of a list of tables. -/
def openNext? (ms : Members) : List String → Option Members
  | [] => none
  | [key] =>
    match ms.find? key with
    | none => some (ms.set key (.tables [] []))
    | some (.tables earlier last) =>
      some (ms.set key (.tables (earlier ++ [.record (closeMembers last)]) []))
    | some _ => none
  | key :: rest =>
    match ms.find? key with
    | none => (openNext? [] rest).map fun inner => ms.set key (.table .implied inner)
    | some (.table origin inner) =>
      (openNext? inner rest).map fun inner => ms.set key (.table origin inner)
    | some (.tables earlier last) =>
      (openNext? last rest).map fun last => ms.set key (.tables earlier last)
    | some (.value _) => none

/-- Changes the table that a header has opened. -/
def within? (ms : Members) (change : Members → Option Members) : List String → Option Members
  | [] => change ms
  | key :: rest =>
    match ms.find? key with
    | some (.table origin inner) =>
      (within? inner change rest).map fun inner => ms.set key (.table origin inner)
    | some (.tables earlier last) =>
      (within? last change rest).map fun last => ms.set key (.tables earlier last)
    | _ => none

end Members

end HostFleet.Toml
