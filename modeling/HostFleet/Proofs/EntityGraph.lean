import HostFleet.Proofs.StoreIndex
import HostFleet.Proofs.Walks
import HostFleet.Selection

/-!
# Entities and the edges between them

In a snapshot with distinct ids an edge between two ids is an edge between the two entities that
carry them, `Links`. With that, what a built store answers about groups, hosts, tags and
datacenters is said of the snapshot alone.
-/

namespace HostFleet.Proofs
open Std Relation

variable {α : Type} {id name : α → String} {edges : α → List String} {xs : List α}

/-- Both entities are listed, and the first refers to the second. -/
def Links (xs : List α) (id : α → String) (edges : α → List String) (x y : α) : Prop :=
  x ∈ xs ∧ y ∈ xs ∧ id y ∈ edges x

lemma reaches_of_links (hd : (xs.map id).Nodup) {x y : α} (hx : x ∈ xs)
    (h : ReflTransGen (Links xs id edges) x y) :
    y ∈ xs ∧ ReflTransGen (Edge (catalogOf id name xs).byId edges) (id x) (id y) := by
  induction h with
  | refl => exact ⟨hx, .refl⟩
  | @tail y z _ hlink ih =>
    obtain ⟨hy, hz, hedge⟩ := hlink
    exact ⟨hz, ih.2.tail ⟨y, (catalogOf_byId_iff hd).mpr ⟨hy, rfl⟩, hedge⟩⟩

/-- With distinct ids, what an entity's id reaches is what its links lead to. -/
theorem reaches_iff_links (hd : (xs.map id).Nodup) {x y : α} (hx : x ∈ xs) :
    Reaches (catalogOf id name xs).byId edges (id x) y ↔
      ReflTransGen (Links xs id edges) x y := by
  constructor
  · rintro ⟨b, hreach, hb⟩
    induction hreach generalizing y with
    | refl =>
      obtain ⟨hy, heq⟩ := (catalogOf_byId_iff hd).mp hb
      rw [eq_of_key_eq hd hy hx heq]
    | tail _ hedge ih =>
      obtain ⟨z, hz, hbz⟩ := hedge
      obtain ⟨hy, rfl⟩ := (catalogOf_byId_iff hd).mp hb
      exact (ih hz).tail ⟨((catalogOf_byId_iff hd).mp hz).1, hy, hbz⟩
  · intro h
    obtain ⟨hy, hreach⟩ : y ∈ xs ∧
        ReflTransGen (Edge (catalogOf id name xs).byId edges) (id x) (id y) :=
      reaches_of_links hd hx h
    exact ⟨id y, hreach, (catalogOf_byId_iff hd).mpr ⟨hy, rfl⟩⟩

lemma mem_of_links {x y : α} (hx : x ∈ xs) (h : ReflTransGen (Links xs id edges) x y) :
    y ∈ xs := by
  cases h with
  | refl => exact hx
  | tail _ hlink => exact hlink.2.1

/-- Where both ends of an edge list it, the paths down are the paths up turned round. -/
theorem reflTransGen_links_comm {down up : α → List String}
    (hmutual : ∀ a ∈ xs, ∀ b ∈ xs, id b ∈ down a ↔ id a ∈ up b) {a b : α} :
    ReflTransGen (Links xs id down) a b ↔ ReflTransGen (Links xs id up) b a := by
  have hswap : Function.swap (Links xs id down) = Links xs id up := by
    funext b a
    apply propext
    constructor
    · rintro ⟨ha, hb, hdown⟩
      exact ⟨hb, ha, (hmutual a ha b hb).mp hdown⟩
    · rintro ⟨hb, ha, hup⟩
      exact ⟨ha, hb, (hmutual a ha b hb).mpr hup⟩
  rw [← reflTransGen_swap, hswap]

/-! ### Members of groups and projects -/

variable {s : Snapshot}

/-- The entities that the ids of an owner name, for any list of entities. -/
lemma mem_members_iff {owner : α → Option String} {k : String} {x : α} :
    x ∈ ((membersOf owner id xs).getD k ∅).toList.filterMap (catalogOf id name xs).byId? ↔
      lastAt id (id x) xs = some x ∧ ∃ y ∈ xs, owner y = some k ∧ id y = id x := by
  rw [List.mem_filterMap]
  constructor
  · rintro ⟨i, hi, hx⟩
    rw [ExtTreeSet.mem_toList, mem_membersOf] at hi
    rw [catalogOf_byId?] at hx
    obtain rfl := key_of_lastAt hx
    exact ⟨hx, hi⟩
  · rintro ⟨hx, hy⟩
    refine ⟨id x, ?_, ?_⟩
    · rw [ExtTreeSet.mem_toList, mem_membersOf]
      exact hy
    · rw [catalogOf_byId?]
      exact hx

/-- With distinct ids these are just the entities with that owner. -/
lemma mem_members_iff_of_nodup (hd : (xs.map id).Nodup) {owner : α → Option String} {k : String}
    {x : α} :
    x ∈ ((membersOf owner id xs).getD k ∅).toList.filterMap (catalogOf id name xs).byId? ↔
      x ∈ xs ∧ owner x = some k := by
  rw [mem_members_iff]
  constructor
  · rintro ⟨hx, y, hy, howner, heq⟩
    have hmem := mem_of_lastAt hx
    rw [← eq_of_key_eq hd hy hmem heq]
    exact ⟨hy, howner⟩
  · rintro ⟨hx, howner⟩
    exact ⟨lastAt_of_nodup hd hx, x, hx, howner, rfl⟩

theorem mem_groupHosts_iff (hd : DistinctIds s) {g : HostGroup} {h : Host} :
    h ∈ (Store.ofSnapshot s).groupHosts g ↔ h ∈ s.hosts ∧ h.groupId = some g.id := by
  rw [Store.groupHosts, ofSnapshot_groupHostIds, ofSnapshot_hosts]
  exact mem_members_iff_of_nodup hd.hosts

theorem mem_projectGroups_iff (hd : DistinctIds s) {p : Project} {g : HostGroup} :
    g ∈ (Store.ofSnapshot s).projectGroups p ↔ g ∈ s.groups ∧ g.projectId = some p.id := by
  rw [Store.projectGroups, ofSnapshot_projectGroupIds, ofSnapshot_groups]
  exact mem_members_iff_of_nodup hd.groups

/-- Listing hosts by id loses none whose id is its own. -/
lemma mem_values_foldl_insert {hs : List Host} {h : Host}
    (hinj : ∀ a ∈ hs, ∀ b ∈ hs, a.id = b.id → a = b) :
    h ∈ (hs.foldl (fun table h => table.insert h.id h) (∅ : NameMap Host)).values ↔ h ∈ hs := by
  simp only [mem_values_iff, getElem?_foldl_insert]
  constructor
  · rintro ⟨k, hk⟩
    cases hlast : lastAt Host.id k hs with
    | none => simp [hlast] at hk
    | some x =>
      obtain rfl : x = h := by simpa [hlast] using hk
      exact mem_of_lastAt hlast
  · intro hmem
    obtain ⟨x, hx⟩ := exists_lastAt Host.id hmem
    obtain rfl := hinj x (mem_of_lastAt hx) h hmem (key_of_lastAt hx)
    exact ⟨x.id, by simp [hx]⟩

/-- The host belongs to the group or to one below it. -/
def Below (s : Snapshot) (g : HostGroup) (h : Host) : Prop :=
  ∃ g', ReflTransGen (Links s.groups HostGroup.id HostGroup.childIds) g g' ∧
    h.groupId = some g'.id

/-- A group with its descendants is what links through children lead to. -/
lemma mem_groupFamily_iff (hd : DistinctIds s) {g g' : HostGroup} (hg : g ∈ s.groups) :
    g' ∈ g :: (Store.ofSnapshot s).groupDescendants g ↔
      ReflTransGen (Links s.groups HostGroup.id HostGroup.childIds) g g' := by
  rw [Store.groupDescendants, ofSnapshot_groups,
    mem_cons_walk_iff ((catalogOf_byId_iff hd.groups).mpr ⟨hg, rfl⟩),
    reaches_iff_links hd.groups hg]

/-- Hosts are listed once, but none is lost, even where ids are given several times. -/
lemma mem_groupAllHosts {g : HostGroup} {h : Host} :
    h ∈ (Store.ofSnapshot s).groupAllHosts g ↔
      ∃ g' ∈ g :: (Store.ofSnapshot s).groupDescendants g,
        h ∈ (Store.ofSnapshot s).groupHosts g' := by
  rw [Store.groupAllHosts, mem_values_foldl_insert, List.mem_flatMap]
  have hlast : ∀ x ∈ (g :: (Store.ofSnapshot s).groupDescendants g).flatMap
      (Store.ofSnapshot s).groupHosts, lastAt Host.id x.id s.hosts = some x := by
    intro x hx
    obtain ⟨g', -, hx⟩ := List.mem_flatMap.mp hx
    rw [Store.groupHosts, ofSnapshot_groupHostIds, ofSnapshot_hosts, mem_members_iff] at hx
    exact hx.1
  intro a ha b hb hid
  have heq := hlast a ha
  rw [hid, hlast b hb] at heq
  exact (Option.some.inj heq).symm

theorem mem_groupAllHosts_iff (hd : DistinctIds s) {g : HostGroup} (hg : g ∈ s.groups)
    {h : Host} :
    h ∈ (Store.ofSnapshot s).groupAllHosts g ↔ h ∈ s.hosts ∧ Below s g h := by
  rw [mem_groupAllHosts]
  simp only [mem_groupFamily_iff hd hg, mem_groupHosts_iff hd]
  constructor
  · rintro ⟨g', hreach, hmem, howner⟩
    exact ⟨hmem, g', hreach, howner⟩
  · rintro ⟨hmem, g', hreach, howner⟩
    exact ⟨g', hreach, hmem, howner⟩

/-- The host belongs to a group of the project or to one below it. -/
def InProject (s : Snapshot) (p : Project) (h : Host) : Prop :=
  ∃ g ∈ s.groups, g.projectId = some p.id ∧ Below s g h

theorem mem_projectHosts_iff (hd : DistinctIds s) {p : Project} {h : Host} :
    h ∈ (Store.ofSnapshot s).projectHosts p ↔ h ∈ s.hosts ∧ InProject s p h := by
  rw [Store.projectHosts, List.mem_flatMap]
  constructor
  · rintro ⟨g, hg, hh⟩
    obtain ⟨hg, howner⟩ := (mem_projectGroups_iff hd).mp hg
    obtain ⟨hmem, hbelow⟩ := (mem_groupAllHosts_iff hd hg).mp hh
    exact ⟨hmem, g, hg, howner, hbelow⟩
  · rintro ⟨hmem, g, hg, howner, hbelow⟩
    exact ⟨g, (mem_projectGroups_iff hd).mpr ⟨hg, howner⟩,
      (mem_groupAllHosts_iff hd hg).mpr ⟨hmem, hbelow⟩⟩

/-! ### Tags and datacenters of a host -/

/-- The tag stands on the host, on its group or on a group above that. -/
def Tagged (s : Snapshot) (h : Host) (tag : String) : Prop :=
  tag ∈ h.tags ∨ ∃ g ∈ s.groups, h.groupId = some g.id ∧
    ∃ g', ReflTransGen (Links s.groups HostGroup.id HostGroup.parentIds) g g' ∧ tag ∈ g'.tags

lemma hostGroup?_eq_some_iff (hd : DistinctIds s) {h : Host} {g : HostGroup} :
    (Store.ofSnapshot s).hostGroup? h = some g ↔ g ∈ s.groups ∧ h.groupId = some g.id := by
  rw [Store.hostGroup?, ofSnapshot_groups, Option.bind_eq_some_iff]
  constructor
  · rintro ⟨k, hk, hg⟩
    obtain ⟨hmem, rfl⟩ := (catalogOf_byId_iff hd.groups).mp hg
    exact ⟨hmem, hk⟩
  · rintro ⟨hg, hk⟩
    exact ⟨g.id, hk, (catalogOf_byId_iff hd.groups).mpr ⟨hg, rfl⟩⟩

/-- A host's groups are what links through parents lead to from its own. -/
theorem mem_hostGroups_iff (hd : DistinctIds s) {h : Host} {g' : HostGroup} :
    g' ∈ (Store.ofSnapshot s).hostGroups h ↔ ∃ g ∈ s.groups, h.groupId = some g.id ∧
      ReflTransGen (Links s.groups HostGroup.id HostGroup.parentIds) g g' := by
  rw [Store.hostGroups]
  cases hgroup : (Store.ofSnapshot s).hostGroup? h with
  | none =>
    constructor
    · intro hmem
      cases hmem
    · rintro ⟨g, hg, hk, -⟩
      rw [(hostGroup?_eq_some_iff hd).mpr ⟨hg, hk⟩] at hgroup
      cases hgroup
  | some g =>
    obtain ⟨hg, hk⟩ := (hostGroup?_eq_some_iff hd).mp hgroup
    dsimp only
    rw [Store.groupAncestors, ofSnapshot_groups,
      mem_cons_walk_iff ((catalogOf_byId_iff hd.groups).mpr ⟨hg, rfl⟩),
      reaches_iff_links hd.groups hg]
    constructor
    · intro hreach
      exact ⟨g, hg, hk, hreach⟩
    · rintro ⟨x, hx, hkx, hreach⟩
      rw [(hostGroup?_eq_some_iff hd).mpr ⟨hx, hkx⟩] at hgroup
      obtain rfl := Option.some.inj hgroup
      exact hreach

/-- A host has its own tags and those of all of its groups. -/
lemma mem_hostTags {store : Store} {h : Host} {tag : String} :
    tag ∈ store.hostTags h ↔ tag ∈ h.tags ∨ ∃ g ∈ store.hostGroups h, tag ∈ g.tags := by
  rw [Store.hostTags, ExtTreeSet.mem_ofList, List.contains_iff_mem, List.mem_append,
    List.mem_flatMap]

theorem mem_hostTags_iff (hd : DistinctIds s) {h : Host} {tag : String} :
    tag ∈ (Store.ofSnapshot s).hostTags h ↔ Tagged s h tag := by
  rw [mem_hostTags]
  apply or_congr_right
  constructor
  · rintro ⟨g', hg', htag⟩
    obtain ⟨g, hg, hk, hreach⟩ := (mem_hostGroups_iff hd).mp hg'
    exact ⟨g, hg, hk, g', hreach, htag⟩
  · rintro ⟨g, hg, hk, g', hreach, htag⟩
    exact ⟨g', (mem_hostGroups_iff hd).mpr ⟨g, hg, hk, hreach⟩, htag⟩

/-- The host's datacenter or one above it has the name. -/
def InDatacenter (s : Snapshot) (h : Host) (name : String) : Prop :=
  ∃ d ∈ s.datacenters, h.datacenterId = some d.id ∧
    ∃ d', ReflTransGen (Links s.datacenters Datacenter.id fun d => d.parentId.toList) d d' ∧
      d'.name = name

theorem hostInDatacenter_iff (hd : DistinctIds s) {h : Host} {name : String} :
    (Store.ofSnapshot s).hostInDatacenter h name = true ↔ InDatacenter s h name := by
  rw [Store.hostInDatacenter, List.any_eq_true, Store.hostDatacenters, ofSnapshot_datacenters]
  simp only [mem_chain_iff, beq_iff_eq]
  constructor
  · rintro ⟨d', ⟨a, ha, hreach⟩, hname⟩
    -- The first step of the chain has an entity: either it is the end or it has an edge.
    have hfirst : ∃ d ∈ s.datacenters, d.id = a := by
      obtain ⟨b, hab, hb⟩ := hreach
      rcases hab.cases_head with rfl | ⟨c, ⟨d, hd', -⟩, -⟩
      · exact ⟨d', (catalogOf_byId_iff hd.datacenters).mp hb⟩
      · exact ⟨d, (catalogOf_byId_iff hd.datacenters).mp hd'⟩
    obtain ⟨d, hmem, rfl⟩ := hfirst
    exact ⟨d, hmem, ha, d', (reaches_iff_links hd.datacenters hmem).mp hreach, hname⟩
  · rintro ⟨d, hmem, ha, d', hreach, hname⟩
    exact ⟨d', ⟨d.id, ha, (reaches_iff_links hd.datacenters hmem).mpr hreach⟩, hname⟩

end HostFleet.Proofs
