import HostFleet.Utility.Basic

/-!
# Lines of files

Programs read their files line by line and as far as they need them. What they write is put aside
until there is enough of it.
-/

namespace HostFleet.Utility

open Machine

/-- A line without the character that ends it, and whether that character is there. -/
structure Line where
  text : String
  isEnded : Bool := true
  deriving DecidableEq, Repr, Inhabited

/-- The lines in a text, and the rest that no character ends yet. -/
def takeLines (stop : Char) (text : String) : List Line × String :=
  let parts := text.splitOn (String.singleton stop)
  (parts.dropLast.map fun text => { text := text }, parts.getLastD "")

namespace Line

/-- The line as it stands in the file. -/
def whole (stop : Char) (l : Line) : String :=
  if l.isEnded then l.text.push stop else l.text

/-- All lines of a text. -/
def ofText (stop : Char) (text : String) : List Line :=
  let (lines, rest) := takeLines stop text
  if rest.isEmpty then lines else lines ++ [{ text := rest, isEnded := false }]

end Line

/-- Files that are read one after the other. -/
structure Source where
  /-- The files that have not been opened. -/
  names : List String
  stop : Char := '\n'
  fd : Option Nat := none
  /-- Lines that have been read but not taken. -/
  ready : List Line := []
  rest : String := ""
  /-- The file that the last line came from, and the number that the line has in it. -/
  name : String := ""
  number : Nat := 0

namespace Source

/-- The next line of the files. Those that cannot be read are reported and left out. -/
def next (onFault : String → Bool → OsError → Program Unit) (fuel : Nat) (s : Source) :
    Program (Option Line × Source) :=
  match fuel with
  | 0 => pure (none, s)
  | fuel + 1 =>
    match s.ready with
    | line :: ready => pure (some line, { s with ready := ready, number := s.number + 1 })
    | [] =>
      match s.fd with
      | none =>
        match s.names with
        | [] => pure (none, s)
        | name :: names => do
          let s := { s with names := names, name := name, number := 0 }
          if name = "-" then next onFault fuel { s with fd := some 0 }
          else match ← Program.openPath name { read := true } with
            | .ok fd => next onFault fuel { s with fd := some fd }
            | .error e => do
              onFault name false e
              next onFault fuel s
      | some fd => do
        let close : Program Unit := if fd = 0 then pure () else Program.close fd
        match ← Program.read fd with
        | .error e => do
          onFault s.name true e
          close
          next onFault fuel { s with fd := none, rest := "" }
        | .ok "" => do
          close
          let left : List Line := if s.rest.isEmpty then [] else [⟨s.rest, false⟩]
          next onFault fuel { s with fd := none, rest := "", ready := left }
        | .ok text =>
          let (lines, rest) := takeLines s.stop (s.rest ++ text)
          next onFault fuel { s with ready := lines, rest := rest }

end Source

/-- Goes through pieces of what a descriptor gives until there is no more of it, or until `step`
has had enough. -/
def eachPiece {σ : Type} (fd : Nat) (fuel : Nat) (step : σ → String → Program (σ × Bool))
    (s : σ) : Program (Except OsError σ) :=
  match fuel with
  | 0 => pure (.ok s)
  | fuel + 1 => do
    match ← Program.read fd with
    | .error e => pure (.error e)
    | .ok "" => pure (.ok s)
    | .ok text =>
      match ← step s text with
      | (s, true) => eachPiece fd fuel step s
      | (s, false) => pure (.ok s)

/-- Output that is put aside, last piece first. -/
structure Held where
  pieces : List String := []
  size : Nat := 0

namespace Held

/-- How much is put aside at most. -/
def limit : Nat := 4096

def flush (c : Call) (code : Nat) (h : Held) : Program Held := do
  c.putOr code (String.join h.pieces.reverse)
  pure {}

def add (c : Call) (code : Nat) (h : Held) (text : String) : Program Held :=
  let h : Held := ⟨text :: h.pieces, h.size + text.length⟩
  if h.size < limit then pure h else h.flush c code

end Held

namespace Call

/-- The content of each file in turn, or of the standard input if none is named. A file that
cannot be read is reported under the name that `about` gives it. Whether all could be read. -/
def eachFile {σ : Type} (c : Call) (names : List String) (about : String → Bool → String)
    (step : σ → String → String → Program σ) (s : σ) : Program (σ × Bool) := do
  let mut s := s
  let mut fine := true
  for name in if names.isEmpty then ["-"] else names do
    let opened ← if name = "-" then pure (.ok 0) else Program.openPath name { read := true }
    match opened with
    | .error e => do
      c.warn (about name false ++ ": " ++ e.reason)
      fine := false
    | .ok fd => do
      let result ← Program.readAll fd Program.plenty []
      if fd != 0 then Program.close fd
      match result with
      | .error e => do
        c.warn (about name true ++ ": " ++ e.reason)
        fine := false
      | .ok text => s ← step s name text
  pure (s, fine)

end Call

end HostFleet.Utility
