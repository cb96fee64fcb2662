import HostFleet.Completion.Completer
import HostFleet.Inventory.Store

/-!
# The completion index

One completer for each kind of name that an expression can hold, filled from an inventory.
-/

namespace HostFleet

/-- A kind of name that can be completed. -/
inductive Domain where
  | hosts
  | groups
  | projects
  | datacenters
  | tags
  | fieldKeys
  | fieldValues
  deriving DecidableEq, Repr

structure Index where
  hosts : Completer
  groups : Completer
  projects : Completer
  datacenters : Completer
  tags : Completer
  fieldKeys : Completer
  fieldValues : Completer
  deriving DecidableEq

/-- The names of one kind that stand in the inventory. Of tags, those of hosts alone; a key comes
with the sign that follows it in a filter. -/
def Store.names (s : Store) : Domain → List String
  | .hosts => s.hosts.all.map Host.fqdn
  | .groups => s.groups.all.map HostGroup.name
  | .projects => s.projects.all.map Project.name
  | .datacenters => s.datacenters.all.map Datacenter.name
  | .tags => s.hosts.all.flatMap Host.tags
  | .fieldKeys => s.hosts.all.flatMap fun h => h.customFields.map fun f => f.key ++ "="
  | .fieldValues => s.hosts.all.flatMap fun h => h.customFields.map CustomField.value

namespace Index

def empty : Index := ⟨.empty, .empty, .empty, .empty, .empty, .empty, .empty⟩

instance : Inhabited Index := ⟨empty⟩

/-- The index of an inventory. -/
def ofStore (s : Store) : Index :=
  { hosts := .ofList (s.names .hosts)
    groups := .ofList (s.names .groups)
    projects := .ofList (s.names .projects)
    datacenters := .ofList (s.names .datacenters)
    tags := .ofList (s.names .tags)
    fieldKeys := .ofList (s.names .fieldKeys)
    fieldValues := .ofList (s.names .fieldValues) }

def completer (i : Index) : Domain → Completer
  | .hosts => i.hosts
  | .groups => i.groups
  | .projects => i.projects
  | .datacenters => i.datacenters
  | .tags => i.tags
  | .fieldKeys => i.fieldKeys
  | .fieldValues => i.fieldValues

def complete (i : Index) (domain : Domain) (start : String) : NameSet :=
  (i.completer domain).complete start

def ofDocument? (d : Document) : Option Index := do
  let f ← d.fields? 7
  some {
    hosts := ← f.required 0 "hosts" Completer.ofDocument?
    groups := ← f.required 1 "groups" Completer.ofDocument?
    projects := ← f.required 2 "projects" Completer.ofDocument?
    datacenters := ← f.required 3 "datacenters" Completer.ofDocument?
    tags := ← f.required 4 "tags" Completer.ofDocument?
    fieldKeys := ← f.required 5 "field_keys" Completer.ofDocument?
    fieldValues := ← f.required 6 "field_values" Completer.ofDocument? }

def toDocument (i : Index) : Document :=
  .record [("hosts", i.hosts.toDocument), ("groups", i.groups.toDocument),
    ("projects", i.projects.toDocument), ("datacenters", i.datacenters.toDocument),
    ("tags", i.tags.toDocument), ("field_keys", i.fieldKeys.toDocument),
    ("field_values", i.fieldValues.toDocument)]

end Index

end HostFleet
