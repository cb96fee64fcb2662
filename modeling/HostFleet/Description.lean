import HostFleet.Selection

/-!
# Descriptions

All that the inventory knows about one host, and how it is shown.
-/

namespace HostFleet

structure Description where
  fqdn : String
  project : Option String
  /-- The host's group and all groups above it. -/
  groups : NameSet
  tags : NameSet
  datacenter : Option String
  rootDatacenter : Option String
  customFields : List CustomField

/-- Describes a host of the inventory. -/
def Store.describe (s : Store) (name : String) : Except QueryError Description :=
  match s.hosts.find? name with
  | none => .error (.hostNotFound name)
  | some h => .ok {
      fqdn := h.fqdn
      project := ((s.hostGroup? h).bind s.groupProject?).map Project.name
      groups := Std.ExtTreeSet.ofList ((s.hostGroups h).map HostGroup.name)
      tags := s.hostTags h
      datacenter := (s.hostDatacenter? h).map Datacenter.name
      rootDatacenter := (s.hostRootDatacenter? h).map Datacenter.name
      customFields := h.customFields }

namespace Description

def commaSeparated (names : NameSet) : String := ", ".intercalate names.toList

def lines (d : Description) : List String :=
  let datacenter := d.datacenter.getD "-"
  let root := d.rootDatacenter.getD "-"
  ["Host:        " ++ d.fqdn,
    "Project:     " ++ d.project.getD "-",
    "Groups:      " ++ commaSeparated d.groups,
    "Tags:        " ++ commaSeparated d.tags,
    s!"Datacenter:  {datacenter} (root: {root})"]
    ++ d.customFields.map fun f => s!"Field:       {f.key}={f.value}"

/-- The description as it is printed, one line for each item. -/
def text (d : Description) : String := String.join (d.lines.map (· ++ "\n"))

end Description

end HostFleet
