import HostFleet.Proofs.EntityGraph

/-!
# What a selector means

A selector covers the hosts of the snapshot that satisfy its target and all of its filters, and
without a filter also a host name that the snapshot does not know. `Targets` and `Passes` say so
in terms of the snapshot's lists and of the links between its entities; nothing is assumed of a
snapshot but that no id is given twice within one kind.
-/

namespace HostFleet.Proofs
open Std Relation

variable {s : Snapshot}

/-- The target of a selector takes in the host. Of several entities with one name the last one
counts. -/
def Targets (s : Snapshot) : Target → Host → Prop
  | .host name, h => lastAt Host.fqdn name s.hosts = some h
  | .group name, h => ∃ g, lastAt HostGroup.name name s.groups = some g ∧ Below s g h
  | .project name, h => ∃ p, lastAt Project.name name s.projects = some p ∧ InProject s p h
  | .entire, h => ∃ p ∈ s.projects, InProject s p h

/-- The host satisfies every filter of a selector. -/
structure Passes (s : Snapshot) (sel : Selector) (h : Host) : Prop where
  datacenter : ∀ name, sel.datacenter = some name → InDatacenter s h name
  tags : ∀ tags, sel.tags = some tags → ∀ tag ∈ tags, Tagged s h tag
  fields : ∀ fields : NameMap String, sel.fields = some fields →
    ∀ key value : String, fields[key]? = some value → ⟨key, value⟩ ∈ h.customFields

lemma hasField_iff {h : Host} {key value : String} :
    h.hasField key value = true ↔ ⟨key, value⟩ ∈ h.customFields := by
  rw [Host.hasField, List.any_eq_true]
  constructor
  · rintro ⟨⟨k, v⟩, hmem, heq⟩
    simp only [Bool.and_eq_true, beq_iff_eq] at heq
    obtain ⟨rfl, rfl⟩ := heq
    exact hmem
  · intro hmem
    exact ⟨_, hmem, by simp⟩

/-- A store's filters are those of the selector, one by one. -/
lemma store_passes_iff {store : Store} {sel : Selector} {h : Host} :
    store.passes sel h = true ↔
      (∀ name, sel.datacenter = some name → store.hostInDatacenter h name = true) ∧
      (∀ tags, sel.tags = some tags → ∀ tag ∈ tags, tag ∈ store.hostTags h) ∧
      (∀ fields : NameMap String, sel.fields = some fields →
        ∀ key value : String, fields[key]? = some value → ⟨key, value⟩ ∈ h.customFields) := by
  simp only [Store.passes, Bool.and_eq_true, Option.all_eq_true_iff_get, and_assoc]
  refine and_congr ?_ (and_congr ?_ ?_)
  · cases sel.datacenter <;> simp
  · cases sel.tags <;> simp [set_all_iff]
  · cases sel.fields <;> simp [map_all_iff, hasField_iff]

lemma passes_iff (hd : DistinctIds s) {sel : Selector} {h : Host} :
    (Store.ofSnapshot s).passes sel h = true ↔ Passes s sel h := by
  rw [store_passes_iff]
  simp only [hostInDatacenter_iff hd, mem_hostTags_iff hd]
  constructor
  · rintro ⟨hdatacenter, htags, hfields⟩
    exact ⟨hdatacenter, htags, hfields⟩
  · rintro ⟨hdatacenter, htags, hfields⟩
    exact ⟨hdatacenter, htags, hfields⟩

theorem mem_targetHosts_iff (hd : DistinctIds s) {target : Target} {h : Host} :
    h ∈ (Store.ofSnapshot s).targetHosts target ↔ h ∈ s.hosts ∧ Targets s target h := by
  cases target with
  | host name =>
    rw [Store.targetHosts, Option.mem_toList, ofSnapshot_hosts, catalogOf_find?_of_nodup hd.hosts]
    exact ⟨fun h => ⟨mem_of_lastAt h, h⟩, fun h => h.2⟩
  | group name =>
    simp only [Store.targetHosts, List.mem_flatMap, Option.mem_toList, ofSnapshot_groups,
      catalogOf_find?_of_nodup hd.groups]
    constructor
    · rintro ⟨g, hg, hh⟩
      obtain ⟨hmem, hbelow⟩ := (mem_groupAllHosts_iff hd (mem_of_lastAt hg)).mp hh
      exact ⟨hmem, g, hg, hbelow⟩
    · rintro ⟨hmem, g, hg, hbelow⟩
      exact ⟨g, hg, (mem_groupAllHosts_iff hd (mem_of_lastAt hg)).mpr ⟨hmem, hbelow⟩⟩
  | project name =>
    simp only [Store.targetHosts, List.mem_flatMap, Option.mem_toList, ofSnapshot_projects,
      catalogOf_find?_of_nodup hd.projects, mem_projectHosts_iff hd]
    constructor
    · rintro ⟨p, hp, hmem, hin⟩
      exact ⟨hmem, p, hp, hin⟩
    · rintro ⟨hmem, p, hp, hin⟩
      exact ⟨p, hp, hmem, hin⟩
  | entire =>
    simp only [Store.targetHosts, List.mem_flatMap, Store.allProjects, ofSnapshot_projects,
      mem_catalogOf_all hd.projects, mem_projectHosts_iff hd]
    constructor
    · rintro ⟨p, hp, hmem, hin⟩
      exact ⟨hmem, p, hp, hin⟩
    · rintro ⟨hmem, p, hp, hin⟩
      exact ⟨p, hp, hmem, hin⟩

lemma hasFilters_eq_false_iff {sel : Selector} : sel.hasFilters = false ↔
    sel.datacenter = none ∧ sel.tags = none ∧ sel.fields = none := by
  simp [Selector.hasFilters, and_assoc]

/-- A selector covers the filtered hosts of its target, or else the unknown host that it names. -/
lemma mem_covers_iff {store : Store} {sel : Selector} {f : String} :
    f ∈ store.covers sel ↔
      (sel.target = .host f ∧ store.targetHosts sel.target = [] ∧ sel.hasFilters = false) ∨
      ∃ h ∈ store.targetHosts sel.target, store.passes sel h = true ∧ h.fqdn = f := by
  have hfiltered : ∀ hosts : List Host,
      f ∈ (ExtTreeSet.ofList ((hosts.filter (store.passes sel)).map Host.fqdn) : NameSet) ↔
        ∃ h ∈ hosts, store.passes sel h = true ∧ h.fqdn = f := by
    intro hosts
    rw [ExtTreeSet.mem_ofList, List.contains_iff_mem, List.mem_map]
    simp only [List.mem_filter, and_assoc]
  rw [Store.covers]
  split
  · next name htarget hnone =>
    by_cases hfilters : sel.hasFilters = true
    · simp [hfilters, hnone]
    · rw [if_neg hfilters]
      change f ∈ (∅ : NameSet).insert name ↔ _
      rw [ExtTreeSet.mem_insert, Std.compare_eq_iff_eq, hnone]
      simp [htarget, hfilters]
  · next target hosts hno =>
    rw [hfiltered]
    constructor
    · intro h
      exact .inr h
    · rintro (⟨htarget, hnone, -⟩ | h)
      · exact absurd hnone (hno f htarget)
      · exact h

/-- The hosts that a selector covers in a store built from a snapshot. -/
theorem covers_meaning (s : Snapshot) (hd : DistinctIds s) (sel : Selector) (f : String) :
    f ∈ (Store.ofSnapshot s).covers sel ↔
      (sel.target = .host f ∧ (∀ h ∈ s.hosts, h.fqdn ≠ f) ∧
        sel.datacenter = none ∧ sel.tags = none ∧ sel.fields = none) ∨
      ∃ h ∈ s.hosts, h.fqdn = f ∧ Targets s sel.target h ∧ Passes s sel h := by
  rw [mem_covers_iff, hasFilters_eq_false_iff]
  apply or_congr
  · apply and_congr_right
    intro htarget
    apply and_congr_left'
    rw [htarget, Store.targetHosts, Option.toList_eq_nil_iff, ofSnapshot_hosts,
      catalogOf_find?_of_nodup hd.hosts, lastAt_eq_none_iff]
  · simp only [mem_targetHosts_iff hd, passes_iff hd]
    constructor
    · rintro ⟨h, ⟨hmem, htarget⟩, hpasses, hname⟩
      exact ⟨h, hmem, hname, htarget, hpasses⟩
    · rintro ⟨h, hmem, hname, htarget, hpasses⟩
      exact ⟨h, ⟨hmem, htarget⟩, hpasses, hname⟩

/-- Two groups that are each below the other, one of them also above a group that is missing. -/
def ringSnapshot : Snapshot :=
  { groups :=
      [⟨"1", "web", none, none, ["2"], ["2", "9"], ["prod"]⟩,
       ⟨"2", "db", none, none, ["1"], ["1"], []⟩]
    hosts := [⟨"7", "a.x", none, some "2", none, none, [], []⟩] }

/-- In a ring of groups a host is found under either group and has the tags of both. -/
theorem covers_meaning_of_ring : DistinctIds ringSnapshot ∧
    "a.x" ∈ (Store.ofSnapshot ringSnapshot).covers
      ⟨.group "web", false, none, some {"prod"}, none⟩ := by
  have hd : DistinctIds ringSnapshot := by
    constructor <;> decide
  refine ⟨hd, (covers_meaning ringSnapshot hd _ _).mpr (.inr ⟨_, .head _, rfl, ?_, ?_⟩)⟩
  · refine ⟨_, rfl, _, .single ⟨.head _, .tail _ (.head _), ?_⟩, rfl⟩
    exact .head _
  · refine ⟨by simp, ?_, by simp⟩
    rintro tags ⟨⟩ tag htag
    obtain rfl : "prod" = tag := by simpa using htag
    exact .inr ⟨_, .tail _ (.head _), rfl, _, .single ⟨.tail _ (.head _), .head _, .head _⟩,
      .head _⟩

end HostFleet.Proofs
