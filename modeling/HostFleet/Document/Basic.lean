import HostFleet.Names

/-!
# Documents

The values that inventory data, cache files and settings are written in, before their fields are
given a meaning. JSON and TOML texts are both read as documents.
-/

namespace HostFleet

inductive Document where
  | null
  | bool (b : Bool)
  | int (n : Int)
  /-- A number with a fraction or an exponent, or one that is no integer for another reason. -/
  | decimal (literal : String)
  | text (s : String)
  /-- A calendar date, a time of day, or both. -/
  | moment (literal : String)
  | list (items : List Document)
  /-- Members in the order in which they stand, one name possibly several times. -/
  | record (members : List (String × Document))
  /-- A string that spells no text, or a record one of whose names is such a string. It can be
  skipped but not read. -/
  | garbled
  deriving Inhabited, Repr

end HostFleet
