import HostFleet.Inventory.Relations
import HostFleet.Selector.Parser

/-!
# Selection

The hosts that an expression selects from an inventory. Its tokens act from left to right on one
set of names: an inclusion adds hosts and an exclusion takes them away.
-/

namespace HostFleet

namespace Store

def allProjects (s : Store) : List Project := s.projects.all

/-- The hosts of every group of a project, some possibly several times. -/
def projectHosts (s : Store) (p : Project) : List Host :=
  (s.projectGroups p).flatMap s.groupAllHosts

/-- The hosts of the inventory that a target covers. -/
def targetHosts (s : Store) : Target → List Host
  | .host name => (s.hosts.find? name).toList
  | .group name => (s.groups.find? name).toList.flatMap s.groupAllHosts
  | .project name => (s.projects.find? name).toList.flatMap s.projectHosts
  | .entire => s.allProjects.flatMap s.projectHosts

/-- Whether a host passes every filter of a selector. -/
def passes (s : Store) (sel : Selector) (h : Host) : Bool :=
  sel.datacenter.all (s.hostInDatacenter h) &&
    sel.tags.all (fun tags => tags.all fun t => (s.hostTags h).contains t) &&
    sel.fields.all fun fields => fields.all h.hasField

/-- The names that one selector covers, whatever its sign. A host outside the inventory stands
for itself as long as there is nothing to filter by. -/
def covers (s : Store) (sel : Selector) : NameSet :=
  match sel.target, s.targetHosts sel.target with
  | .host name, [] => if sel.hasFilters then ∅ else {name}
  | _, hosts => Std.ExtTreeSet.ofList ((hosts.filter (s.passes sel)).map Host.fqdn)

/-- The set after one more selector. -/
def applySelector (s : Store) (names : NameSet) (sel : Selector) : NameSet :=
  if sel.exclude then names \ s.covers sel else names ∪ s.covers sel

def select (s : Store) (selectors : List Selector) : NameSet :=
  selectors.foldl s.applySelector ∅

/-- The names that an expression selects. Nothing is selected if a token is bad. -/
def resolve (s : Store) (expr : String) : Except Selector.Error NameSet :=
  (Selector.parseExpression expr).map s.select

end Store

/-- Why no hosts come out of a query. -/
inductive QueryError where
  | selector (e : Selector.Error)
  | emptyHostList
  | hostNotFound (name : String)
  /-- A part of a run that others wait for is gone. -/
  | disconnected (detail : String)
  deriving DecidableEq, Repr

def QueryError.text : QueryError → String
  | .selector e => e.text
  | .emptyHostList => "empty hostlist"
  | .hostNotFound name => "host not found: " ++ name
  | .disconnected detail => "actor communication error: " ++ detail

/-- The names that an expression selects, at least one. -/
def Store.resolveNonempty (s : Store) (expr : String) : Except QueryError (List String) :=
  match s.resolve expr with
  | .error e => .error (.selector e)
  | .ok names => if names.isEmpty then .error .emptyHostList else .ok names.toList

end HostFleet
