import HostFleet.Inventory.Store
import HostFleet.Proofs.NameMaps

/-!
# The indices of a built store

A store built from a snapshot is one catalog of each kind, and the ids of the groups of each
project and of the hosts of each group. `catalogOf` and `membersOf` build these from any list of
entities, and their look-ups are told by the list alone: an id names the last entity with that
id, and a name stands for the id of the last entity with that name.
-/

namespace HostFleet.Proofs
open Std

variable {α : Type}

/-- A catalog of the entities of a list, added in turn. -/
def catalogOf (id name : α → String) (xs : List α) : Catalog α :=
  xs.foldl (fun c x => c.insert (id x) (name x) x) {}

/-- The ids of a list's entities by owner. -/
def membersOf (owner : α → Option String) (id : α → String) (xs : List α) : NameMap NameSet :=
  xs.foldl (fun index x => Store.addMember index (owner x) (id x)) ∅

section Catalog

variable {id name : α → String} {xs : List α}

lemma catalogOf_eq : catalogOf id name xs =
    { byId := xs.foldl (fun m x => m.insert (id x) x) ∅
      idOfName := xs.foldl (fun m x => m.insert (name x) (id x)) ∅ } := by
  have h : ∀ c : Catalog α, xs.foldl (fun c x => c.insert (id x) (name x) x) c =
      { byId := xs.foldl (fun m x => m.insert (id x) x) c.byId
        idOfName := xs.foldl (fun m x => m.insert (name x) (id x)) c.idOfName } := by
    induction xs with
    | nil => intro c; rfl
    | cons x xs ih => intro c; exact ih _
  exact h {}

/-- An id names the last entity with that id. -/
theorem catalogOf_byId (k : String) : (catalogOf id name xs).byId[k]? = lastAt id k xs := by
  simp only [catalogOf_eq, getElem?_foldl_insert]
  cases lastAt id k xs <;> simp

/-- A name stands for the id of the last entity with that name. -/
theorem catalogOf_idOfName (n : String) :
    (catalogOf id name xs).idOfName[n]? = (lastAt name n xs).map id := by
  simp only [catalogOf_eq, getElem?_foldl_insert]
  cases lastAt name n xs <;> simp

lemma catalogOf_byId? (k : String) : (catalogOf id name xs).byId? k = lastAt id k xs :=
  catalogOf_byId k

/-- A name finds the entity that its id names in the end. -/
theorem catalogOf_find? (n : String) : (catalogOf id name xs).find? n =
    (lastAt name n xs).bind fun x => lastAt id (id x) xs := by
  rw [Catalog.find?, catalogOf_idOfName, Option.bind_map]
  congr 1
  funext x
  exact catalogOf_byId? _

/-- With distinct ids a name finds the last entity with that name. -/
theorem catalogOf_find?_of_nodup (hd : (xs.map id).Nodup) (n : String) :
    (catalogOf id name xs).find? n = lastAt name n xs := by
  rw [catalogOf_find?]
  cases h : lastAt name n xs with
  | none => rfl
  | some x => exact lastAt_of_nodup hd (mem_of_lastAt h)

/-- With distinct ids an id names the entity that carries it. -/
theorem catalogOf_byId_iff (hd : (xs.map id).Nodup) {k : String} {x : α} :
    (catalogOf id name xs).byId[k]? = some x ↔ x ∈ xs ∧ id x = k := by
  rw [catalogOf_byId]
  constructor
  · intro h
    exact ⟨mem_of_lastAt h, key_of_lastAt h⟩
  · rintro ⟨hx, rfl⟩
    exact lastAt_of_nodup hd hx

lemma mem_catalogOf_all (hd : (xs.map id).Nodup) {x : α} :
    x ∈ (catalogOf id name xs).all ↔ x ∈ xs := by
  rw [Catalog.all, mem_values_iff]
  constructor
  · rintro ⟨k, hk⟩
    exact ((catalogOf_byId_iff hd).mp hk).1
  · intro hx
    exact ⟨id x, (catalogOf_byId_iff hd).mpr ⟨hx, rfl⟩⟩

end Catalog

section Members

variable {owner : α → Option String} {id : α → String} {xs : List α}

lemma mem_addMember {index : NameMap NameSet} {o : Option String} {item k i : String} :
    i ∈ (Store.addMember index o item).getD k ∅ ↔
      (o = some k ∧ i = item) ∨ i ∈ index.getD k ∅ := by
  cases o with
  | none => simp [Store.addMember]
  | some o =>
    rw [Store.addMember, ExtTreeMap.getD_alter]
    by_cases hk : o = k
    · subst hk
      rw [if_pos compare_self, Option.getD_some, ExtTreeSet.mem_insert, Std.compare_eq_iff_eq,
        ExtTreeMap.getD_eq_getD_getElem?, eq_comm]
      simp
    · rw [if_neg (by simpa using hk)]
      simp [hk]

/-- Just the entities with an owner are kept under it. -/
theorem mem_membersOf {k i : String} :
    i ∈ (membersOf owner id xs).getD k ∅ ↔ ∃ x ∈ xs, owner x = some k ∧ id x = i := by
  have h : ∀ index : NameMap NameSet,
      i ∈ (xs.foldl (fun index x => Store.addMember index (owner x) (id x)) index).getD k ∅ ↔
        i ∈ index.getD k ∅ ∨ ∃ x ∈ xs, owner x = some k ∧ id x = i := by
    induction xs with
    | nil => simp
    | cons x xs ih =>
      intro index
      rw [List.foldl_cons, ih, mem_addMember, eq_comm (b := id x), or_comm (b := i ∈ _), or_assoc]
      simp only [List.mem_cons, or_and_right, exists_or, exists_eq_left]
  rw [membersOf, h, ExtTreeMap.getD_empty]
  simp only [ExtTreeSet.not_mem_empty, false_or]

end Members

/-! ### Stores of snapshots -/

section OfSnapshot

lemma foldl_insertDatacenter (ds : List Datacenter) (s : Store) :
    ds.foldl Store.insertDatacenter s =
      { s with datacenters := ds.foldl (fun c d => c.insert d.id d.name d) s.datacenters } := by
  induction ds generalizing s with
  | nil => rfl
  | cons d ds ih => exact ih _

lemma foldl_insertProject (ps : List Project) (s : Store) :
    ps.foldl Store.insertProject s =
      { s with projects := ps.foldl (fun c p => c.insert p.id p.name p) s.projects } := by
  induction ps generalizing s with
  | nil => rfl
  | cons p ps ih => exact ih _

lemma foldl_insertGroup (gs : List HostGroup) (s : Store) :
    gs.foldl Store.insertGroup s =
      { s with
        groups := gs.foldl (fun c g => c.insert g.id g.name g) s.groups
        projectGroupIds :=
          gs.foldl (fun m g => Store.addMember m g.projectId g.id) s.projectGroupIds } := by
  induction gs generalizing s with
  | nil => rfl
  | cons g gs ih => exact ih _

lemma foldl_insertHost (hs : List Host) (s : Store) :
    hs.foldl Store.insertHost s =
      { s with
        hosts := hs.foldl (fun c h => c.insert h.id h.fqdn h) s.hosts
        groupHostIds :=
          hs.foldl (fun m h => Store.addMember m h.groupId h.id) s.groupHostIds } := by
  induction hs generalizing s with
  | nil => rfl
  | cons h hs ih => exact ih _

/-- The indices of a built store, each told by one list of the snapshot. -/
theorem ofSnapshot_eq (s : Snapshot) : Store.ofSnapshot s =
    { datacenters := catalogOf Datacenter.id Datacenter.name s.datacenters
      projects := catalogOf Project.id Project.name s.projects
      groups := catalogOf HostGroup.id HostGroup.name s.groups
      hosts := catalogOf Host.id Host.fqdn s.hosts
      projectGroupIds := membersOf HostGroup.projectId HostGroup.id s.groups
      groupHostIds := membersOf Host.groupId Host.id s.hosts } := by
  rw [Store.ofSnapshot, foldl_insertDatacenter, foldl_insertProject, foldl_insertGroup,
    foldl_insertHost]
  rfl

variable (s : Snapshot)

@[simp] lemma ofSnapshot_datacenters : (Store.ofSnapshot s).datacenters =
    catalogOf Datacenter.id Datacenter.name s.datacenters := by
  rw [ofSnapshot_eq]

@[simp] lemma ofSnapshot_projects : (Store.ofSnapshot s).projects =
    catalogOf Project.id Project.name s.projects := by
  rw [ofSnapshot_eq]

@[simp] lemma ofSnapshot_groups : (Store.ofSnapshot s).groups =
    catalogOf HostGroup.id HostGroup.name s.groups := by
  rw [ofSnapshot_eq]

@[simp] lemma ofSnapshot_hosts : (Store.ofSnapshot s).hosts =
    catalogOf Host.id Host.fqdn s.hosts := by
  rw [ofSnapshot_eq]

@[simp] lemma ofSnapshot_projectGroupIds : (Store.ofSnapshot s).projectGroupIds =
    membersOf HostGroup.projectId HostGroup.id s.groups := by
  rw [ofSnapshot_eq]

@[simp] lemma ofSnapshot_groupHostIds : (Store.ofSnapshot s).groupHostIds =
    membersOf Host.groupId Host.id s.hosts := by
  rw [ofSnapshot_eq]

end OfSnapshot

/-- No id is given twice within one kind. Names may be, and references may lead anywhere. -/
structure DistinctIds (s : Snapshot) : Prop where
  datacenters : (s.datacenters.map Datacenter.id).Nodup
  projects : (s.projects.map Project.id).Nodup
  groups : (s.groups.map HostGroup.id).Nodup
  hosts : (s.hosts.map Host.id).Nodup

end HostFleet.Proofs
