import HostFleet.Names

/-!
# Selectors

A selector names a target and narrows it with filters: at most one datacenter, and any number of
tags and custom fields. `Selector.narrow?` adds one filter.
-/

namespace HostFleet

inductive Target where
  | host (name : String)
  /-- A group and everything below it. -/
  | group (name : String)
  /-- Every group of a project. -/
  | project (name : String)
  /-- Every group of every project. -/
  | entire
  deriving DecidableEq, Repr

inductive Filter where
  | datacenter (name : String)
  | tag (name : String)
  | field (key value : String)
  deriving DecidableEq, Repr

structure Selector where
  target : Target
  /-- Whether the hosts are taken away and not added. -/
  exclude : Bool
  datacenter : Option String
  tags : Option NameSet
  /-- The value that each named field must have. -/
  fields : Option (NameMap String)
  deriving DecidableEq

namespace Selector

def hasFilters (s : Selector) : Bool :=
  s.datacenter.isSome || s.tags.isSome || s.fields.isSome

/-- A selector without filters. -/
def plain (exclude : Bool) (target : Target) : Selector :=
  ⟨target, exclude, none, none, none⟩

/-- The selector with one more filter, unless that is a second datacenter. The last value given
for a field counts. -/
def narrow? (s : Selector) : Filter → Option Selector
  | .datacenter name =>
    match s.datacenter with
    | some _ => none
    | none => some { s with datacenter := some name }
  | .tag name => some { s with tags := some ((s.tags.getD ∅).insert name) }
  | .field key value => some { s with fields := some ((s.fields.getD ∅).insert key value) }

end Selector

end HostFleet
