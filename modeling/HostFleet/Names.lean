import Std.Data.ExtTreeMap
import Std.Data.ExtTreeSet

/-!
# Names

Hosts, groups, tags and ids are strings. Sets of them and maps keyed by them list their entries
by code point, and are equal when they hold the same entries.
-/

namespace HostFleet

abbrev NameSet := Std.ExtTreeSet String

abbrev NameMap (α : Type) := Std.ExtTreeMap String α

/-- Bytes as a program writes them. -/
abbrev Bytes := List UInt8

end HostFleet
