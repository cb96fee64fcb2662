import HostFleet.Machine.Files
import HostFleet.Shell.Pattern

/-!
# Fields

The words of a command fall into fields once their expansions are known. Text that came from an
expansion outside quotes is split; a field with a pattern in it stands for the files it matches.
-/

namespace HostFleet.Shell

open Machine

/-- A piece of an expanded word. -/
inductive Piece where
  /-- Text in quotes: neither split nor taken for a pattern. -/
  | fixed (s : String)
  /-- Text of the program outside quotes: not split. -/
  | plain (s : String)
  /-- Text that came from an expansion outside quotes. -/
  | loose (s : String)
  /-- Where one argument ends and the next begins. -/
  | gap
  /-- The end of arguments in quotes. -/
  | close
  deriving DecidableEq, Repr

namespace Piece

/-- The text of an expansion. -/
def held (quoted : Bool) (s : String) : Piece := if quoted then .fixed s else .loose s

def text : Piece → String
  | .fixed s => s
  | .plain s => s
  | .loose s => s
  | .gap => " "
  | .close => ""

/-- The piece as part of a pattern. A backslash that came from an expansion protects what follows
it. -/
def pattern : Piece → List PatternChar
  | .fixed s => s.toList.map fun c => (c, true)
  | .plain s => s.toList.map fun c => (c, false)
  | .loose s => unprotected s.toList
  | .gap => [(' ', true)]
  | .close => []
where
  unprotected : List Char → List PatternChar
    | [] => []
    | '\x5c' :: c :: rest => (c, true) :: unprotected rest
    | c :: rest => (c, false) :: unprotected rest

end Piece

/-- Fields under construction. Characters and fields come last first. -/
structure Splitter where
  done : List (List PatternChar) := []
  current : Option (List PatternChar) := none
  /-- Whether a blank has just ended a field. -/
  afterBlank : Bool := false
  /-- Whether each blank ends a field, as in the text after arguments in quotes. -/
  isStrict : Bool := false
  /-- Whether the field under construction is nothing but an empty argument before text to split. -/
  isFaint : Bool := false

namespace Splitter

def add (p : Splitter) (quoted : Bool) (s : String) : Splitter :=
  let more := s.toList.reverse.map fun c => (c, quoted)
  { p with current := some (more ++ p.current.getD []), afterBlank := false, isFaint := false }

/-- Ends the field that is under construction. -/
def close (p : Splitter) : Splitter :=
  match p.current with
  | none => p
  | some cs => { p with done := cs :: p.done, current := none }

def isBlank (c : Char) : Bool := c = ' ' || c = '\t' || c = '\n'

/-- One character of text to split. A separator that is no blank ends a field even if the field
is empty. -/
def splitChar (separators : List Char) (p : Splitter) (c : Char) : Splitter :=
  let blank := isBlank c && !p.isStrict
  if !separators.contains c then p.add false (String.singleton c)
  else match p.current with
    | some _ => { p.close with afterBlank := blank }
    | none =>
      if blank then p
      else if p.afterBlank then { p with afterBlank := false }
      else { p with done := [] :: p.done }

def piece (separators : List Char) (p : Splitter) : Piece → Splitter
  | .fixed s => p.add true s
  | .plain s => p.add false s
  | .loose s =>
    let p := { p with isFaint := p.isFaint || (p.isStrict && p.current == some []) }
    { s.toList.foldl (splitChar separators) p with isStrict := false }
  | .gap => { p.close with afterBlank := false, isFaint := false }
  | .close => { p with isStrict := true, isFaint := false }

/-- The fields of an expanded word. -/
def fields (separators : List Char) (pieces : List Piece) : List (List PatternChar) :=
  let p := pieces.foldl (piece separators) {}
  let p := if p.isFaint && p.current == some [] then p else p.close
  (p.done.map List.reverse).reverse

end Splitter

/-- How patterns are taken for files. -/
structure Globbing where
  files : Files
  folder : String
  /-- Whether patterns can hold groups. -/
  groups : Bool := false
  /-- Whether a pattern that matches nothing stands for nothing. -/
  dropsEmpty : Bool := false
  /-- Whether patterns stand for names that begin with a dot. -/
  showsHidden : Bool := false

namespace Field

def text (f : List PatternChar) : String := String.ofList (f.map Prod.fst)

def isPattern (f : List PatternChar) : Bool :=
  f.any fun (c, quoted) => !quoted && (c = '*' || c = '?' || c = '[')

/-- The parts of a field between slashes. -/
def split (f : List PatternChar) : List (List PatternChar) :=
  f.foldr (fun p parts =>
    if p.1 = '/' then [] :: parts
    else match parts with
      | [] => [[p]]
      | part :: more => (p :: part) :: more) [[]]

/-- The names in a folder, with the dots that every folder holds. -/
def namesIn (g : Globbing) (folder : String) : List String :=
  match g.files.lookup true g.folder (if folder.isEmpty then "." else folder) with
  | .ok (p, .folder) => "." :: ".." :: g.files.entries p
  | _ => []

/-- The paths whose parts match. `shown` is the part of the path that has been found. -/
def below (g : Globbing) (shown : String) : List (List PatternChar) → List String
  | [] => [shown]
  | part :: rest =>
    let go (name : String) : List String :=
      below g (shown ++ name ++ (if rest.isEmpty then "" else "/")) rest
    let name := text part
    if name.isEmpty then
      below g (if rest.isEmpty then shown else if shown.isEmpty then "/" else shown ++ "/") rest
    else if isPattern part then
      let pattern := Pattern.read g.groups part
      let isShown (n : String) : Bool :=
        !n.startsWith "." || name.startsWith "." || (g.showsHidden && n != "." && n != "..")
      ((namesIn g shown).filter fun n => isShown n && pattern.isMatch n.toList).flatMap fun n =>
        if rest.isEmpty || g.files.isFolder g.folder (shown ++ n) then go n else []
    else if (g.files.lookup false g.folder (shown ++ name)).toOption.isSome then go name
    else []

/-- The paths that a field stands for, or its text if it matches none. -/
def paths (g : Globbing) (f : List PatternChar) : List String :=
  if !isPattern f then [text f]
  else match below g "" (split f) with
    | [] => if g.dropsEmpty then [] else [text f]
    | found => found

end Field

end HostFleet.Shell
