import HostFleet.Document.Basic

/-!
# Reading fields

A record is given by the names of its fields or as the list of them in order. `Fields.get` finds
one field in either form and refuses a field that is given twice; members that no field asks for
are ignored.
-/

namespace HostFleet

/-- The fields of a record, by name or by position. -/
inductive Fields where
  | named (members : List (String × Document))
  | listed (items : List Document)

namespace Document

/-- The document as a record of `count` fields. A list may be shorter but not longer. -/
def fields? (count : Nat) : Document → Option Fields
  | .record members => some (.named members)
  | .list items => if items.length ≤ count then some (.listed items) else none
  | .moment _ => some (.named [])
  | _ => none

@[simp] theorem fields?_record (count : Nat) (members : List (String × Document)) :
    fields? count (.record members) = some (.named members) := rfl

/-- The document as a record. What a list holds beyond the fields is left out. -/
def anyFields? : Document → Option Fields
  | .record members => some (.named members)
  | .list items => some (.listed items)
  | .moment _ => some (.named [])
  | _ => none

def text? : Document → Option String
  | .text s => some s
  | _ => none

def bool? : Document → Option Bool
  | .bool b => some b
  | _ => none

/-- A whole number from 0 up to, not including, `bound`. -/
def natBelow? (bound : Nat) : Document → Option Nat
  | .int n => if 0 ≤ n && n < bound then some n.toNat else none
  | _ => none

/-- A value that may be `null`. -/
def nullable? {α : Type} (read : Document → Option α) : Document → Option (Option α)
  | .null => some none
  | d => (read d).map some

def listOf? {α : Type} (read : Document → Option α) : Document → Option (List α)
  | .list items => items.mapM read
  | _ => none

/-- A list, or `null` for the empty one. -/
def listOrNull? {α : Type} (read : Document → Option α) : Document → Option (List α)
  | .null => some []
  | d => d.listOf? read

/-- One of several bare names: the name itself, or a record whose one member has that name and
a value that `bare` accepts. -/
def choice? (bare : Document → Bool) : Document → Option String
  | .text s => some s
  | .record [(name, value)] => if bare value then some name else none
  | _ => none

def isNull : Document → Bool
  | .null => true
  | _ => false

/-- Whether the document is a list or a record with nothing in it. -/
def isHollow : Document → Bool
  | .list [] => true
  | .record [] => true
  | _ => false

end Document

namespace Fields

/-- The field at position `i`, called by any of `names`: nothing inside when it is left out, and
no answer when it is given more than once. -/
def get (f : Fields) (i : Nat) (names : List String) : Option (Option Document) :=
  match f with
  | .listed items => some items[i]?
  | .named members =>
    match members.filter fun m => names.contains m.1 with
    | [] => some none
    | [m] => some (some m.2)
    | _ => none

def required {α : Type} (f : Fields) (i : Nat) (name : String) (read : Document → Option α) :
    Option α :=
  match f.get i [name] with
  | some (some d) => read d
  | _ => none

/-- A field that stands for `fallback` when it is left out. -/
def optional {α : Type} (f : Fields) (i : Nat) (names : List String) (fallback : α)
    (read : Document → Option α) : Option α :=
  match f.get i names with
  | some (some d) => read d
  | some none => some fallback
  | none => none

def optionalText (f : Fields) (i : Nat) (name : String) : Option (Option String) :=
  f.optional i [name] none (Document.nullable? Document.text?)

/-- A list that is empty when it is left out or `null`. -/
def optionalList {α : Type} (f : Fields) (i : Nat) (names : List String)
    (read : Document → Option α) : Option (List α) :=
  f.optional i names [] (Document.listOrNull? read)

end Fields

end HostFleet
