import HostFleet.Proofs.ExportedStore

/-!
# Answers that look-ups decide

What a store answers about expressions and hosts depends on a few look-ups alone. Two stores that
`Agree` on them select the same hosts and describe them alike.
-/

namespace HostFleet.Proofs
open Std

/-- The stores look up the same entities. Names of datacenters are not looked up. -/
structure Agree (a b : Store) : Prop where
  datacenters : a.datacenters.byId = b.datacenters.byId
  projects : a.projects.byId = b.projects.byId
  groups : a.groups.byId = b.groups.byId
  hosts : a.hosts.byId = b.hosts.byId
  findProject : ∀ n, a.projects.find? n = b.projects.find? n
  findGroup : ∀ n, a.groups.find? n = b.groups.find? n
  findHost : ∀ n, a.hosts.find? n = b.hosts.find? n
  groupHosts : ∀ (k : String) (g : HostGroup), b.groups.byId[k]? = some g →
    a.groupHosts g = b.groupHosts g
  projectGroups : ∀ (k : String) (p : Project), b.projects.byId[k]? = some p →
    a.projectGroups p = b.projectGroups p

/-- What a name finds has an id. -/
lemma exists_byId_of_find? {α : Type} {c : Catalog α} {n : String} {x : α}
    (hx : c.find? n = some x) : ∃ k : String, c.byId[k]? = some x := by
  obtain ⟨k, -, hk⟩ := Option.bind_eq_some_iff.mp hx
  exact ⟨k, hk⟩

lemma byId?_congr {α : Type} {c c' : Catalog α} (h : c.byId = c'.byId) : c.byId? = c'.byId? := by
  funext k
  rw [Catalog.byId?, h, Catalog.byId?]

/-- Stores in which every selector covers the same hosts resolve expressions alike. -/
lemma resolve_congr {a b : Store} (h : ∀ sel, a.covers sel = b.covers sel) (expr : String) :
    a.resolve expr = b.resolve expr := by
  have happly : a.applySelector = b.applySelector := by
    funext names sel
    rw [Store.applySelector, h, Store.applySelector]
  have hselect : a.select = b.select := by
    funext sels
    rw [Store.select, happly, Store.select]
  rw [Store.resolve, hselect, Store.resolve]

section Agree

variable {a b : Store} (hab : Agree a b)
include hab

lemma Agree.hostGroups (h : Host) : a.hostGroups h = b.hostGroups h := by
  rw [Store.hostGroups, Store.hostGroups, Store.hostGroup?, Store.hostGroup?,
    byId?_congr hab.groups]
  simp only [Store.groupAncestors, hab.groups]

lemma Agree.hostTags (h : Host) : a.hostTags h = b.hostTags h := by
  rw [Store.hostTags, hab.hostGroups, Store.hostTags]

lemma Agree.hostInDatacenter (h : Host) (name : String) :
    a.hostInDatacenter h name = b.hostInDatacenter h name := by
  rw [Store.hostInDatacenter, Store.hostDatacenters, hab.datacenters, Store.hostInDatacenter,
    Store.hostDatacenters]

lemma Agree.passes (sel : Selector) (h : Host) : a.passes sel h = b.passes sel h := by
  simp only [Store.passes, hab.hostTags, funext (hab.hostInDatacenter h)]

lemma Agree.groupAllHosts {k : String} {g : HostGroup} (hg : b.groups.byId[k]? = some g) :
    a.groupAllHosts g = b.groupAllHosts g := by
  have hdescendants : a.groupDescendants g = b.groupDescendants g := by
    rw [Store.groupDescendants, hab.groups, Store.groupDescendants]
  have hfamily : ∀ g' ∈ g :: b.groupDescendants g, a.groupHosts g' = b.groupHosts g' := by
    intro g' hg'
    rcases List.mem_cons.mp hg' with rfl | hg'
    · exact hab.groupHosts k g' hg
    · obtain ⟨-, -, i, -, hi, -⟩ := visit_sound hg'
      exact hab.groupHosts i g' hi
  have hhosts : (g :: b.groupDescendants g).flatMap a.groupHosts =
      (g :: b.groupDescendants g).flatMap b.groupHosts := by
    rw [List.flatMap_def, List.flatMap_def, List.map_congr_left hfamily]
  rw [Store.groupAllHosts, hdescendants, hhosts, Store.groupAllHosts]

lemma Agree.projectHosts {k : String} {p : Project} (hp : b.projects.byId[k]? = some p) :
    a.projectHosts p = b.projectHosts p := by
  have hgroups : ∀ g ∈ b.projectGroups p, a.groupAllHosts g = b.groupAllHosts g := by
    intro g hg
    obtain ⟨i, -, hi⟩ := List.mem_filterMap.mp hg
    exact hab.groupAllHosts hi
  rw [Store.projectHosts, hab.projectGroups k p hp, List.flatMap_def,
    List.map_congr_left hgroups, ← List.flatMap_def, Store.projectHosts]

lemma Agree.targetHosts (target : Target) : a.targetHosts target = b.targetHosts target := by
  cases target with
  | host name => rw [Store.targetHosts, hab.findHost, Store.targetHosts]
  | group name =>
    rw [Store.targetHosts, hab.findGroup, Store.targetHosts]
    cases hg : b.groups.find? name with
    | none => rfl
    | some g =>
      obtain ⟨k, hk⟩ := exists_byId_of_find? hg
      simp [hab.groupAllHosts hk]
  | project name =>
    rw [Store.targetHosts, hab.findProject, Store.targetHosts]
    cases hp : b.projects.find? name with
    | none => rfl
    | some p =>
      obtain ⟨k, hk⟩ := exists_byId_of_find? hp
      simp [hab.projectHosts hk]
  | entire =>
    have hprojects : ∀ p ∈ b.allProjects, a.projectHosts p = b.projectHosts p := by
      intro p hp
      obtain ⟨k, hk⟩ := mem_values_iff.mp hp
      exact hab.projectHosts hk
    have hall : a.allProjects = b.allProjects := by
      rw [Store.allProjects, Catalog.all, hab.projects, Store.allProjects, Catalog.all]
    rw [Store.targetHosts, hall, List.flatMap_def, List.map_congr_left hprojects,
      ← List.flatMap_def, Store.targetHosts]

lemma Agree.covers (sel : Selector) : a.covers sel = b.covers sel := by
  rw [Store.covers, Store.covers, hab.targetHosts, funext (hab.passes sel)]

/-- Stores that agree select the same hosts. -/
theorem Agree.resolve (expr : String) : a.resolve expr = b.resolve expr :=
  resolve_congr hab.covers expr

/-- Stores that agree describe hosts alike. -/
theorem Agree.describe (name : String) : a.describe name = b.describe name := by
  have hproject : a.groupProject? = b.groupProject? := by
    funext g
    rw [Store.groupProject?, byId?_congr hab.projects, Store.groupProject?]
  have hroot : a.datacenterRoot? = b.datacenterRoot? := by
    funext d
    rw [Store.datacenterRoot?, byId?_congr hab.datacenters, Store.datacenterRoot?]
  rw [Store.describe, Store.describe, hab.findHost]
  cases b.hosts.find? name with
  | none => rfl
  | some h =>
    simp only [Store.hostRootDatacenter?, Store.hostDatacenter?, Store.hostGroup?, hproject, hroot,
      hab.hostGroups, hab.hostTags, byId?_congr hab.groups, byId?_congr hab.datacenters]

end Agree

/-! ### Exports -/

/-- The store that a rebuild from the export of a snapshot's store gives. -/
def exported (s : Snapshot) : Store := .ofSnapshot (Store.ofSnapshot s).toSnapshot

/-- Names of projects, groups and hosts are settled, and so are the owners of groups and hosts
that the snapshot holds. -/
structure Settled (s : Snapshot) : Prop where
  projects : NamesSettled Project.id Project.name s.projects
  groups : NamesSettled HostGroup.id HostGroup.name s.groups
  hosts : NamesSettled Host.id Host.fqdn s.hosts
  projectGroups : ∀ p ∈ s.projects, OwnerSettled HostGroup.projectId HostGroup.id s.groups p.id
  groupHosts : ∀ g ∈ s.groups, OwnerSettled Host.groupId Host.id s.hosts g.id

section Exported

variable {s : Snapshot}

/-- An export gives no id twice. -/
lemma distinctIds_toSnapshot : DistinctIds (Store.ofSnapshot s).toSnapshot := by
  constructor
  · rw [Store.toSnapshot, ofSnapshot_datacenters]
    exact nodup_all
  · rw [Store.toSnapshot, ofSnapshot_projects]
    exact nodup_all
  · rw [Store.toSnapshot, ofSnapshot_groups]
    exact nodup_all
  · rw [Store.toSnapshot, ofSnapshot_hosts]
    exact nodup_all

lemma exported_groupHosts_iff {g : HostGroup} :
    (exported s).groupHosts g = (Store.ofSnapshot s).groupHosts g ↔
      OwnerSettled Host.groupId Host.id s.hosts g.id := by
  rw [ownerSettled_iff Host.fqdn]
  simp only [exported, Store.groupHosts, ofSnapshot_groupHostIds, ofSnapshot_hosts,
    Store.toSnapshot]

lemma exported_projectGroups_iff {p : Project} :
    (exported s).projectGroups p = (Store.ofSnapshot s).projectGroups p ↔
      OwnerSettled HostGroup.projectId HostGroup.id s.groups p.id := by
  rw [ownerSettled_iff HostGroup.name]
  simp only [exported, Store.projectGroups, ofSnapshot_projectGroupIds, ofSnapshot_groups,
    Store.toSnapshot]

/-- A rebuilt store agrees with the one that was exported just when the snapshot is settled. -/
theorem agree_exported_iff : Agree (exported s) (Store.ofSnapshot s) ↔ Settled s := by
  constructor
  · intro h
    refine ⟨namesSettled_iff.mpr ?_, namesSettled_iff.mpr ?_, namesSettled_iff.mpr ?_, ?_, ?_⟩
    · simpa [exported, Store.toSnapshot] using h.findProject
    · simpa [exported, Store.toSnapshot] using h.findGroup
    · simpa [exported, Store.toSnapshot] using h.findHost
    · intro p hp
      obtain ⟨p', hp'⟩ := exists_lastAt Project.id hp
      have hsettled := exported_projectGroups_iff.mp (h.projectGroups p.id p' (by
        rw [ofSnapshot_projects, catalogOf_byId, hp']))
      rwa [key_of_lastAt hp'] at hsettled
    · intro g hg
      obtain ⟨g', hg'⟩ := exists_lastAt HostGroup.id hg
      have hsettled := exported_groupHosts_iff.mp (h.groupHosts g.id g' (by
        rw [ofSnapshot_groups, catalogOf_byId, hg']))
      rwa [key_of_lastAt hg'] at hsettled
  · intro h
    constructor
    · simp [exported, Store.toSnapshot, catalogOf_all_byId]
    · simp [exported, Store.toSnapshot, catalogOf_all_byId]
    · simp [exported, Store.toSnapshot, catalogOf_all_byId]
    · simp [exported, Store.toSnapshot, catalogOf_all_byId]
    · simpa [exported, Store.toSnapshot] using namesSettled_iff.mp h.projects
    · simpa [exported, Store.toSnapshot] using namesSettled_iff.mp h.groups
    · simpa [exported, Store.toSnapshot] using namesSettled_iff.mp h.hosts
    · intro k g hg
      rw [ofSnapshot_groups, catalogOf_byId] at hg
      exact exported_groupHosts_iff.mpr (h.groupHosts g (mem_of_lastAt hg))
    · intro k p hp
      rw [ofSnapshot_projects, catalogOf_byId] at hp
      exact exported_projectGroups_iff.mpr (h.projectGroups p (mem_of_lastAt hp))

/-- Nothing is unsettled where ids and names are given once. -/
lemma namesSettled_of_nodup {α : Type} {id name : α → String} {xs : List α}
    (hids : (xs.map id).Nodup) (hnames : (xs.map name).Nodup) : NamesSettled id name xs := by
  intro x hx
  refine ⟨lastAt_of_nodup hids (mem_of_lastAt hx), fun y hy hname => ?_⟩
  obtain rfl := eq_of_key_eq hnames (mem_of_lastAt hy) (mem_of_lastAt hx) hname
  exact String.le_refl _

lemma ownerSettled_of_nodup {α : Type} {owner : α → Option String} {id : α → String} {xs : List α}
    (hids : (xs.map id).Nodup) (k : String) : OwnerSettled owner id xs k :=
  fun x hx howner => ⟨x, lastAt_of_nodup hids hx, howner⟩

theorem settled_of_distinct (hd : DistinctIds s) (hprojects : (s.projects.map Project.name).Nodup)
    (hgroups : (s.groups.map HostGroup.name).Nodup) (hhosts : (s.hosts.map Host.fqdn).Nodup) :
    Settled s where
  projects := namesSettled_of_nodup hd.projects hprojects
  groups := namesSettled_of_nodup hd.groups hgroups
  hosts := namesSettled_of_nodup hd.hosts hhosts
  projectGroups := fun _ _ => ownerSettled_of_nodup hd.groups _
  groupHosts := fun _ _ => ownerSettled_of_nodup hd.hosts _

end Exported

end HostFleet.Proofs
