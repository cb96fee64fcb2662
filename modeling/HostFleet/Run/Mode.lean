import HostFleet.Document.Fields
import HostFleet.Text.Quoted

/-!
# Modes of a run

A run takes one host after the other, or many at once with every line under its host's name, or
many at once with equal outputs shown together.
-/

namespace HostFleet

inductive Mode where
  | serial
  | parallel
  | collapse
  deriving DecidableEq, Repr, Inhabited

namespace Mode

def name : Mode → String
  | .serial => "serial"
  | .parallel => "parallel"
  | .collapse => "collapse"

def ofName? : String → Option Mode
  | "serial" => some .serial
  | "parallel" => some .parallel
  | "collapse" => some .collapse
  | _ => none

/-- The message about a word in lower case that names no mode. -/
def unknownText (word : String) : String :=
  s!"unknown mode {Quoted.text word}, expected serial, parallel or collapse"

/-- The mode that a word names, in small or capital letters. Without one, the message. -/
def parse (word : String) : Except String Mode :=
  let lower := word.toLower
  match ofName? lower with
  | some m => .ok m
  | none => .error (unknownText lower)

/-- The mode that a document names; as a record with one member, `bare` has to accept the value. -/
def ofDocument? (bare : Document → Bool) (d : Document) : Option Mode :=
  (d.choice? bare).bind ofName?

def toDocument (m : Mode) : Document := .text m.name

end Mode

end HostFleet
