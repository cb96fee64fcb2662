import HostFleet.Document.Fields
import HostFleet.Inventory.Entity

/-!
# Inventory as documents

Each entity has a reader `ofDocument?` and a writer `toDocument`. The writer puts down every
field; the reader lets optional ones be left out, lists be `null`, and a host's tags and custom
fields come under a second name.
-/

namespace HostFleet

namespace Document

def ofOption : Option String → Document
  | some s => .text s
  | none => .null

def ofTexts (items : List String) : Document := .list (items.map .text)

end Document

open Document (ofOption ofTexts text?)

def Datacenter.ofDocument? (d : Document) : Option Datacenter := do
  let f ← d.fields? 6
  some {
    id := ← f.required 0 "_id" text?
    name := ← f.required 1 "name" text?
    label := ← f.optionalText 2 "human_readable"
    parentId := ← f.optionalText 3 "parent_id"
    rootId := ← f.optionalText 4 "root_id"
    childIds := ← f.optionalList 5 ["child_ids"] text? }

def Datacenter.toDocument (d : Datacenter) : Document :=
  .record [("_id", .text d.id), ("name", .text d.name), ("human_readable", ofOption d.label),
    ("parent_id", ofOption d.parentId), ("root_id", ofOption d.rootId),
    ("child_ids", ofTexts d.childIds)]

def Project.ofDocument? (d : Document) : Option Project := do
  let f ← d.fields? 6
  some {
    id := ← f.required 0 "_id" text?
    name := ← f.required 1 "name" text?
    description := ← f.optionalText 2 "description"
    email := ← f.optionalText 3 "email"
    rootEmail := ← f.optionalText 4 "root_email"
    ownerId := ← f.optionalText 5 "owner_id" }

def Project.toDocument (p : Project) : Document :=
  .record [("_id", .text p.id), ("name", .text p.name), ("description", ofOption p.description),
    ("email", ofOption p.email), ("root_email", ofOption p.rootEmail),
    ("owner_id", ofOption p.ownerId)]

def HostGroup.ofDocument? (d : Document) : Option HostGroup := do
  let f ← d.fields? 7
  some {
    id := ← f.required 0 "_id" text?
    name := ← f.required 1 "name" text?
    description := ← f.optionalText 2 "description"
    projectId := ← f.optionalText 3 "project_id"
    parentIds := ← f.optionalList 4 ["parent_ids"] text?
    childIds := ← f.optionalList 5 ["child_ids"] text?
    tags := ← f.optionalList 6 ["tags"] text? }

def HostGroup.toDocument (g : HostGroup) : Document :=
  .record [("_id", .text g.id), ("name", .text g.name), ("description", ofOption g.description),
    ("project_id", ofOption g.projectId), ("parent_ids", ofTexts g.parentIds),
    ("child_ids", ofTexts g.childIds), ("tags", ofTexts g.tags)]

def CustomField.ofDocument? (d : Document) : Option CustomField := do
  let f ← d.fields? 2
  some { key := ← f.required 0 "key" text?, value := ← f.required 1 "value" text? }

def CustomField.toDocument (c : CustomField) : Document :=
  .record [("key", .text c.key), ("value", .text c.value)]

def Host.ofDocument? (d : Document) : Option Host := do
  let f ← d.fields? 8
  some {
    id := ← f.required 0 "_id" text?
    fqdn := ← f.required 1 "fqdn" text?
    shortName := ← f.optionalText 2 "short_name"
    groupId := ← f.optionalText 3 "group_id"
    datacenterId := ← f.optionalText 4 "datacenter_id"
    description := ← f.optionalText 5 "description"
    tags := ← f.optionalList 6 ["tags", "all_tags"] text?
    customFields :=
      ← f.optionalList 7 ["custom_fields", "all_custom_fields"] CustomField.ofDocument? }

def Host.toDocument (h : Host) : Document :=
  .record [("_id", .text h.id), ("fqdn", .text h.fqdn), ("short_name", ofOption h.shortName),
    ("group_id", ofOption h.groupId), ("datacenter_id", ofOption h.datacenterId),
    ("description", ofOption h.description), ("tags", ofTexts h.tags),
    ("custom_fields", .list (h.customFields.map CustomField.toDocument))]

def Snapshot.ofDocument? (d : Document) : Option Snapshot := do
  let f ← d.fields? 4
  some {
    datacenters := ← f.optionalList 0 ["datacenters"] Datacenter.ofDocument?
    projects := ← f.optionalList 1 ["projects"] Project.ofDocument?
    groups := ← f.optionalList 2 ["groups"] HostGroup.ofDocument?
    hosts := ← f.optionalList 3 ["hosts"] Host.ofDocument? }

def Snapshot.toDocument (s : Snapshot) : Document :=
  .record [("datacenters", .list (s.datacenters.map Datacenter.toDocument)),
    ("projects", .list (s.projects.map Project.toDocument)),
    ("groups", .list (s.groups.map HostGroup.toDocument)),
    ("hosts", .list (s.hosts.map Host.toDocument))]

/-- The snapshot inside a reply of the inventory service. -/
def Snapshot.ofReply? (d : Document) : Option Snapshot := do
  let f ← d.fields? 1
  f.required 0 "data" Snapshot.ofDocument?

end HostFleet
