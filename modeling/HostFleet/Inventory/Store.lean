import HostFleet.Inventory.Entity

/-!
# The indexed inventory

A `Catalog` holds entities by id and finds them by name. `Store` holds a catalog of each kind
with the groups of every project and the hosts of every group. Where an id or a name is given
twice, the later entity wins.
-/

namespace HostFleet

/-- Entities by id, and the id that was last given under each name. -/
structure Catalog (α : Type) where
  byId : NameMap α := ∅
  idOfName : NameMap String := ∅

namespace Catalog

variable {α : Type}

instance : Inhabited (Catalog α) := ⟨{}⟩

def insert (c : Catalog α) (id name : String) (entity : α) : Catalog α :=
  { byId := c.byId.insert id entity, idOfName := c.idOfName.insert name id }

/-- The entity with this id. -/
def byId? (c : Catalog α) (id : String) : Option α := c.byId[id]?

/-- The entity with this name. -/
def find? (c : Catalog α) (name : String) : Option α :=
  c.idOfName[name]?.bind c.byId?

/-- All entities, by id. -/
def all (c : Catalog α) : List α := c.byId.values

def ids (c : Catalog α) : List String := c.byId.keys

end Catalog

/-- An inventory with its indices. -/
structure Store where
  datacenters : Catalog Datacenter := {}
  projects : Catalog Project := {}
  groups : Catalog HostGroup := {}
  hosts : Catalog Host := {}
  /-- The ids of the groups of each project. -/
  projectGroupIds : NameMap NameSet := ∅
  /-- The ids of the hosts of each group. -/
  groupHostIds : NameMap NameSet := ∅

namespace Store

instance : Inhabited Store := ⟨{}⟩

/-- Adds `item` to the set kept for `owner`, if there is an owner. -/
def addMember (index : NameMap NameSet) (owner : Option String) (item : String) :
    NameMap NameSet :=
  match owner with
  | some owner => index.alter owner fun s => some ((s.getD ∅).insert item)
  | none => index

def insertDatacenter (s : Store) (d : Datacenter) : Store :=
  { s with datacenters := s.datacenters.insert d.id d.name d }

def insertProject (s : Store) (p : Project) : Store :=
  { s with projects := s.projects.insert p.id p.name p }

def insertGroup (s : Store) (g : HostGroup) : Store :=
  { s with
    groups := s.groups.insert g.id g.name g
    projectGroupIds := addMember s.projectGroupIds g.projectId g.id }

def insertHost (s : Store) (h : Host) : Store :=
  { s with
    hosts := s.hosts.insert h.id h.fqdn h
    groupHostIds := addMember s.groupHostIds h.groupId h.id }

def ofSnapshot (s : Snapshot) : Store :=
  let store := s.datacenters.foldl insertDatacenter {}
  let store := s.projects.foldl insertProject store
  let store := s.groups.foldl insertGroup store
  s.hosts.foldl insertHost store

/-- The entities of every kind, by id. -/
def toSnapshot (s : Store) : Snapshot :=
  { datacenters := s.datacenters.all
    projects := s.projects.all
    groups := s.groups.all
    hosts := s.hosts.all }

def isEmpty (s : Store) : Bool :=
  s.datacenters.byId.isEmpty && s.projects.byId.isEmpty && s.groups.byId.isEmpty &&
    s.hosts.byId.isEmpty

end Store

end HostFleet
