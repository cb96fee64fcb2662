import HostFleet.Proofs.StoreAnswers

/-!
# Coherent indices

An entity that comes with an id already given replaces the earlier one by id, but what the earlier
one added to the indices by name and by owner stays there. So a name may find an entity that does
not carry it, and an owner may be given members that have left it. This happens just when the last
entity with a name, or an entity with an owner, is replaced by one with another.
-/

namespace HostFleet.Proofs

variable {α : Type} {id name : α → String} {owner : α → Option String} {xs : List α}

/-- Whatever is found under a name carries it. -/
def FindsNamed (name : α → String) (c : Catalog α) : Prop :=
  ∀ n x, c.find? n = some x → name x = n

/-- What is found under a name carries it, and what is listed for an owner belongs to it. -/
structure CoherentStore (store : Store) : Prop where
  datacenters : FindsNamed Datacenter.name store.datacenters
  projects : FindsNamed Project.name store.projects
  groups : FindsNamed HostGroup.name store.groups
  hosts : FindsNamed Host.fqdn store.hosts
  projectGroups : ∀ p, ∀ g ∈ store.projectGroups p, g.projectId = some p.id
  groupHosts : ∀ g, ∀ h ∈ store.groupHosts g, h.groupId = some g.id

/-- The last entity with a name is the last one with its id too. -/
def NamesKept (id name : α → String) (xs : List α) : Prop :=
  ∀ n x, lastAt name n xs = some x → lastAt id (id x) xs = some x

/-- No name and no owner is lost when an entity is replaced by a later one with its id. -/
structure Unreplaced (s : Snapshot) : Prop where
  datacenters : NamesKept Datacenter.id Datacenter.name s.datacenters
  projects : NamesKept Project.id Project.name s.projects
  groups : NamesKept HostGroup.id HostGroup.name s.groups
  hosts : NamesKept Host.id Host.fqdn s.hosts
  projectGroups : ∀ k, OwnerSettled HostGroup.projectId HostGroup.id s.groups k
  groupHosts : ∀ k, OwnerSettled Host.groupId Host.id s.hosts k

/-- A name finds nothing but the entity that carries it just when names are kept. -/
theorem findsNamed_iff : FindsNamed name (catalogOf id name xs) ↔ NamesKept id name xs := by
  constructor
  · intro hfinds n x hx
    obtain ⟨y, hy⟩ := exists_lastAt id (mem_of_lastAt hx)
    have hname : name y = n := by
      apply hfinds
      rw [catalogOf_find?, hx, Option.bind_some, hy]
    -- What replaces `x` carries the name, and nothing that comes after `x` does.
    obtain rfl := key_of_lastAt hx
    rw [hy, eq_of_lastAt hx hy hname]
  · intro hkept n y hy
    rw [catalogOf_find?, Option.bind_eq_some_iff] at hy
    obtain ⟨x, hx, hy⟩ := hy
    rw [hkept n x hx] at hy
    obtain rfl := Option.some.inj hy
    exact key_of_lastAt hx

/-- An owner is given nothing but its own members just when none of them is replaced by an entity
with another owner. -/
theorem owner_of_member_iff {k : String} :
    (∀ x ∈ ((membersOf owner id xs).getD k ∅).toList.filterMap (catalogOf id name xs).byId?,
      owner x = some k) ↔ OwnerSettled owner id xs k := by
  constructor
  · intro howners x hx howner
    obtain ⟨y, hy⟩ := exists_lastAt id hx
    have hid := key_of_lastAt hy
    refine ⟨y, hy, howners y (mem_members_iff.mpr ⟨?_, x, hx, howner, hid.symm⟩)⟩
    rw [hid]
    exact hy
  · intro hsettled y hy
    obtain ⟨hlast, x, hx, howner, hid⟩ := mem_members_iff.mp hy
    obtain ⟨z, hz, howner'⟩ := hsettled x hx howner
    rw [hid, hlast] at hz
    obtain rfl := Option.some.inj hz
    exact howner'

lemma owner_of_mem_groupHosts_iff {s : Snapshot} {g : HostGroup} :
    (∀ h ∈ (Store.ofSnapshot s).groupHosts g, h.groupId = some g.id) ↔
      OwnerSettled Host.groupId Host.id s.hosts g.id := by
  rw [Store.groupHosts, ofSnapshot_groupHostIds, ofSnapshot_hosts]
  exact owner_of_member_iff

lemma owner_of_mem_projectGroups_iff {s : Snapshot} {p : Project} :
    (∀ g ∈ (Store.ofSnapshot s).projectGroups p, g.projectId = some p.id) ↔
      OwnerSettled HostGroup.projectId HostGroup.id s.groups p.id := by
  rw [Store.projectGroups, ofSnapshot_projectGroupIds, ofSnapshot_groups]
  exact owner_of_member_iff

/-- A store is coherent just when no entity of the snapshot under whose name or owner it still looks
up an id was replaced by an entity with another. -/
theorem coherentStore_iff_unreplaced (s : Snapshot) :
    CoherentStore (Store.ofSnapshot s) ↔ Unreplaced s := by
  constructor
  · intro h
    exact {
      datacenters := findsNamed_iff.mp (ofSnapshot_datacenters s ▸ h.datacenters)
      projects := findsNamed_iff.mp (ofSnapshot_projects s ▸ h.projects)
      groups := findsNamed_iff.mp (ofSnapshot_groups s ▸ h.groups)
      hosts := findsNamed_iff.mp (ofSnapshot_hosts s ▸ h.hosts)
      -- Every id is that of some entity, though it need not be one of the snapshot.
      projectGroups := fun k =>
        owner_of_mem_projectGroups_iff.mp (h.projectGroups { (default : Project) with id := k })
      groupHosts := fun k =>
        owner_of_mem_groupHosts_iff.mp (h.groupHosts { (default : HostGroup) with id := k }) }
  · intro h
    exact {
      datacenters := ofSnapshot_datacenters s ▸ findsNamed_iff.mpr h.datacenters
      projects := ofSnapshot_projects s ▸ findsNamed_iff.mpr h.projects
      groups := ofSnapshot_groups s ▸ findsNamed_iff.mpr h.groups
      hosts := ofSnapshot_hosts s ▸ findsNamed_iff.mpr h.hosts
      projectGroups := fun p => owner_of_mem_projectGroups_iff.mpr (h.projectGroups p.id)
      groupHosts := fun g => owner_of_mem_groupHosts_iff.mpr (h.groupHosts g.id) }

/-- A host that comes again under another name and in another group. -/
def movedSnapshot : Snapshot :=
  { groups := [⟨"1", "web", none, none, [], [], []⟩, ⟨"2", "db", none, none, [], [], []⟩]
    hosts := [⟨"7", "a.x", none, some "1", none, none, [], []⟩,
      ⟨"7", "b.x", none, some "2", none, none, [], []⟩] }

example : ((Store.ofSnapshot movedSnapshot).hosts.find? "a.x").map Host.fqdn = some "b.x" := by cbv

example : ((Store.ofSnapshot movedSnapshot).groupHosts ⟨"1", "web", none, none, [], [], []⟩).map
    Host.groupId = [some "2"] := by cbv

/-- Nothing is replaced where ids are given once, however often names are. -/
theorem unreplaced_of_distinctIds {s : Snapshot} (hd : DistinctIds s) : Unreplaced s where
  datacenters := fun _ _ hx => lastAt_of_nodup hd.datacenters (mem_of_lastAt hx)
  projects := fun _ _ hx => lastAt_of_nodup hd.projects (mem_of_lastAt hx)
  groups := fun _ _ hx => lastAt_of_nodup hd.groups (mem_of_lastAt hx)
  hosts := fun _ _ hx => lastAt_of_nodup hd.hosts (mem_of_lastAt hx)
  projectGroups := ownerSettled_of_nodup hd.groups
  groupHosts := ownerSettled_of_nodup hd.hosts

end HostFleet.Proofs
