import HostFleet.Inventory.Store
import HostFleet.Inventory.Walk

/-!
# Relations between entities

Parents, children and owners of the entities of a `Store`. An id that names nothing in the store
is passed over. Hosts and groups that a set of ids names come by id.
-/

namespace HostFleet.Store

def datacenterParent? (s : Store) (d : Datacenter) : Option Datacenter :=
  d.parentId.bind s.datacenters.byId?

def datacenterRoot? (s : Store) (d : Datacenter) : Option Datacenter :=
  d.rootId.bind s.datacenters.byId?

def datacenterChildren (s : Store) (d : Datacenter) : List Datacenter :=
  d.childIds.filterMap s.datacenters.byId?

/-- The children of a datacenter, their children, and so on, nearest first. -/
def datacenterDescendants (s : Store) (d : Datacenter) : List Datacenter :=
  Walk.walk s.datacenters.byId Datacenter.childIds d.id d.childIds

def groupProject? (s : Store) (g : HostGroup) : Option Project :=
  g.projectId.bind s.projects.byId?

def groupParents (s : Store) (g : HostGroup) : List HostGroup :=
  g.parentIds.filterMap s.groups.byId?

def groupChildren (s : Store) (g : HostGroup) : List HostGroup :=
  g.childIds.filterMap s.groups.byId?

/-- The parents of a group, their parents, and so on, nearest first. -/
def groupAncestors (s : Store) (g : HostGroup) : List HostGroup :=
  Walk.walk s.groups.byId HostGroup.parentIds g.id g.parentIds

/-- The children of a group, their children, and so on, nearest first. -/
def groupDescendants (s : Store) (g : HostGroup) : List HostGroup :=
  Walk.walk s.groups.byId HostGroup.childIds g.id g.childIds

/-- The hosts that a group owns itself. -/
def groupHosts (s : Store) (g : HostGroup) : List Host :=
  (s.groupHostIds.getD g.id ∅).toList.filterMap s.hosts.byId?

/-- The hosts of a group and of all its descendants, each once. -/
def groupAllHosts (s : Store) (g : HostGroup) : List Host :=
  let hosts := (g :: s.groupDescendants g).flatMap s.groupHosts
  let table : NameMap Host := hosts.foldl (fun table h => table.insert h.id h) ∅
  table.values

def projectGroups (s : Store) (p : Project) : List HostGroup :=
  (s.projectGroupIds.getD p.id ∅).toList.filterMap s.groups.byId?

def hostGroup? (s : Store) (h : Host) : Option HostGroup :=
  h.groupId.bind s.groups.byId?

def hostDatacenter? (s : Store) (h : Host) : Option Datacenter :=
  h.datacenterId.bind s.datacenters.byId?

def hostRootDatacenter? (s : Store) (h : Host) : Option Datacenter :=
  (s.hostDatacenter? h).bind s.datacenterRoot?

/-- The datacenter of a host and all that lie above it. -/
def hostDatacenters (s : Store) (h : Host) : List Datacenter :=
  Walk.chain s.datacenters.byId Datacenter.parentId [] h.datacenterId

/-- Whether the host's datacenter, or one above it, has this name. -/
def hostInDatacenter (s : Store) (h : Host) (name : String) : Bool :=
  (s.hostDatacenters h).any fun d => d.name == name

/-- The group of a host and all groups above it. -/
def hostGroups (s : Store) (h : Host) : List HostGroup :=
  match s.hostGroup? h with
  | some g => g :: s.groupAncestors g
  | none => []

/-- The tags of a host together with those of its group and of all groups above it. -/
def hostTags (s : Store) (h : Host) : NameSet :=
  Std.ExtTreeSet.ofList (h.tags ++ (s.hostGroups h).flatMap HostGroup.tags)

end HostFleet.Store
