import HostFleet.Names

/-!
# What an inventory holds

Datacenters form a tree, projects own groups, groups form a graph within a project, and hosts
belong to a group and stand in a datacenter. Everything refers to everything else by id alone.
-/

namespace HostFleet

structure Datacenter where
  id : String
  name : String
  /-- The name to show. -/
  label : Option String
  parentId : Option String
  rootId : Option String
  childIds : List String
  deriving DecidableEq, Repr, Inhabited

structure Project where
  id : String
  name : String
  description : Option String
  email : Option String
  rootEmail : Option String
  ownerId : Option String
  deriving DecidableEq, Repr, Inhabited

structure HostGroup where
  id : String
  name : String
  description : Option String
  projectId : Option String
  parentIds : List String
  childIds : List String
  tags : List String
  deriving DecidableEq, Repr, Inhabited

/-- A key and value attached to a host. -/
structure CustomField where
  key : String
  value : String
  deriving DecidableEq, Repr, Inhabited

structure Host where
  id : String
  fqdn : String
  shortName : Option String
  groupId : Option String
  datacenterId : Option String
  description : Option String
  tags : List String
  customFields : List CustomField
  deriving DecidableEq, Repr, Inhabited

/-- Whether the host carries a field with exactly this key and value. -/
def Host.hasField (h : Host) (key value : String) : Bool :=
  h.customFields.any fun f => f.key == key && f.value == value

/-- One complete copy of the inventory, as it is delivered. -/
structure Snapshot where
  datacenters : List Datacenter := []
  projects : List Project := []
  groups : List HostGroup := []
  hosts : List Host := []
  deriving DecidableEq, Repr, Inhabited

end HostFleet
