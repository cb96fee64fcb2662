import HostFleet.Document.Json.Token

/-!
# Reading JSON

One pass over the tokens, with the lists and records that are still open on a stack, so nesting
has no limit. Anything but white space after the document is refused.
-/

namespace HostFleet.Json

/-- A list or record whose end is still to come, its contents last first. For a record, also the
name that the next value belongs to. -/
inductive Frame where
  | list (items : List Document)
  | record (members : List (Option String × Document)) (name : Option String)

/-- A closed record. One unreadable name makes it unreadable. -/
def closeMembers (members : List (Option String × Document)) : Document :=
  match members.reverse.mapM fun m => m.1.map (·, m.2) with
  | some ms => .record ms
  | none => .garbled

mutual

/-- Reads on where a value has to stand. -/
def readValue : List Token → List Frame → Option Document
  | .scalar d :: rest, stack => readAfter rest d stack
  | .text s :: rest, stack => readAfter rest (s.elim .garbled .text) stack
  | .openList :: .closeList :: rest, stack => readAfter rest (.list []) stack
  | .openList :: rest, stack => readValue rest (.list [] :: stack)
  | .openRecord :: .closeRecord :: rest, stack => readAfter rest (.record []) stack
  | .openRecord :: .text name :: .colon :: rest, stack =>
    readValue rest (.record [] name :: stack)
  | _, _ => none

/-- Reads on after a finished value. -/
def readAfter : List Token → Document → List Frame → Option Document
  | [], d, [] => some d
  | .comma :: rest, d, .list items :: stack => readValue rest (.list (d :: items) :: stack)
  | .closeList :: rest, d, .list items :: stack =>
    readAfter rest (.list (d :: items).reverse) stack
  | .comma :: .text next :: .colon :: rest, d, .record members name :: stack =>
    readValue rest (.record ((name, d) :: members) next :: stack)
  | .closeRecord :: rest, d, .record members name :: stack =>
    readAfter rest (closeMembers ((name, d) :: members)) stack
  | _, _, _ => none

end

@[simp] theorem readValue_scalar (d : Document) (rest : List Token) (stack : List Frame) :
    readValue (.scalar d :: rest) stack = readAfter rest d stack := by
  rw [readValue]

/-- The document that a JSON text spells. -/
def read? (bs : Bytes) : Option Document := do
  readValue (← tokens? bs) []

end HostFleet.Json
