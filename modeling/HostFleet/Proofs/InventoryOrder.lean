import HostFleet.Proofs.CompletionBuckets
import HostFleet.Proofs.SelectionMeaning
import HostFleet.Proofs.StoreAnswers

/-!
# The order of an inventory

A snapshot in which ids and names are given once may be delivered in any order, and so may the
references and tags of its entities, which may also be repeated. Walks then meet the groups in
another order, but they meet the same ones: selections, descriptions and completions do not
change.
-/

namespace HostFleet.Proofs
open Std Relation

/-! ### Rearranged snapshots -/

/-- The lists have the same members, in any order and any number of times. -/
def SameMembers (xs ys : List String) : Prop := ∀ x, x ∈ xs ↔ x ∈ ys

lemma SameMembers.symm {xs ys : List String} (h : SameMembers xs ys) : SameMembers ys xs :=
  fun x => (h x).symm

/-- The same datacenter but for the way in which its children are listed. -/
structure AlikeDatacenters (d d' : Datacenter) : Prop where
  children : SameMembers d.childIds d'.childIds
  others : d' = { d with childIds := d'.childIds }

/-- The same group but for the way in which its relatives and tags are listed. -/
structure AlikeGroups (g g' : HostGroup) : Prop where
  parents : SameMembers g.parentIds g'.parentIds
  children : SameMembers g.childIds g'.childIds
  tags : SameMembers g.tags g'.tags
  others : g' = { g with parentIds := g'.parentIds, childIds := g'.childIds, tags := g'.tags }

/-- The same host but for the way in which its tags are listed. -/
structure AlikeHosts (h h' : Host) : Prop where
  tags : SameMembers h.tags h'.tags
  others : h' = { h with tags := h'.tags }

/-- The second list is the first one in some order, with entities replaced by ones alike. -/
def Shuffled {α : Type} (alike : α → α → Prop) (xs ys : List α) : Prop :=
  ∃ zs, xs.Perm zs ∧ List.Forall₂ alike zs ys

/-- The second snapshot is the first one in some order. -/
structure Rearranged (s s' : Snapshot) : Prop where
  datacenters : Shuffled AlikeDatacenters s.datacenters s'.datacenters
  projects : s.projects.Perm s'.projects
  groups : Shuffled AlikeGroups s.groups s'.groups
  hosts : Shuffled AlikeHosts s.hosts s'.hosts

/-- No name is given twice within one kind. -/
structure DistinctNames (s : Snapshot) : Prop where
  datacenters : (s.datacenters.map Datacenter.name).Nodup
  projects : (s.projects.map Project.name).Nodup
  groups : (s.groups.map HostGroup.name).Nodup
  hosts : (s.hosts.map Host.fqdn).Nodup

section Alike

variable {d d' : Datacenter} {g g' : HostGroup} {h h' : Host}

lemma AlikeDatacenters.symm (hd : AlikeDatacenters d d') : AlikeDatacenters d' d :=
  ⟨hd.children.symm, by rw [hd.others]⟩

lemma AlikeGroups.symm (hg : AlikeGroups g g') : AlikeGroups g' g :=
  ⟨hg.parents.symm, hg.children.symm, hg.tags.symm, by rw [hg.others]⟩

lemma AlikeHosts.symm (hh : AlikeHosts h h') : AlikeHosts h' h :=
  ⟨hh.tags.symm, by rw [hh.others]⟩

lemma AlikeDatacenters.id (hd : AlikeDatacenters d d') : d.id = d'.id := by rw [hd.others]

lemma AlikeDatacenters.name (hd : AlikeDatacenters d d') : d.name = d'.name := by rw [hd.others]

lemma AlikeDatacenters.parentId (hd : AlikeDatacenters d d') : d.parentId = d'.parentId := by
  rw [hd.others]

lemma AlikeDatacenters.rootId (hd : AlikeDatacenters d d') : d.rootId = d'.rootId := by
  rw [hd.others]

lemma AlikeGroups.id (hg : AlikeGroups g g') : g.id = g'.id := by rw [hg.others]

lemma AlikeGroups.name (hg : AlikeGroups g g') : g.name = g'.name := by rw [hg.others]

lemma AlikeGroups.projectId (hg : AlikeGroups g g') : g.projectId = g'.projectId := by
  rw [hg.others]

lemma AlikeHosts.id (hh : AlikeHosts h h') : h.id = h'.id := by rw [hh.others]

lemma AlikeHosts.fqdn (hh : AlikeHosts h h') : h.fqdn = h'.fqdn := by rw [hh.others]

lemma AlikeHosts.groupId (hh : AlikeHosts h h') : h.groupId = h'.groupId := by rw [hh.others]

lemma AlikeHosts.datacenterId (hh : AlikeHosts h h') : h.datacenterId = h'.datacenterId := by
  rw [hh.others]

lemma AlikeHosts.customFields (hh : AlikeHosts h h') : h.customFields = h'.customFields := by
  rw [hh.others]

end Alike

section Shuffled

variable {α : Type} {alike : α → α → Prop} {key : α → String} {xs ys : List α} {x y : α}

lemma Shuffled.symm (hsymm : ∀ x y, alike x y → alike y x) (h : Shuffled alike xs ys) :
    Shuffled alike ys xs := by
  obtain ⟨zs, hperm, halike⟩ := h
  obtain ⟨ws, halike', hperm'⟩ := List.perm_comp_forall₂ hperm halike
  exact ⟨ws, hperm'.symm, halike'.flip.imp fun _ _ => hsymm _ _⟩

lemma Shuffled.exists_alike (h : Shuffled alike xs ys) (hx : x ∈ xs) : ∃ y ∈ ys, alike x y := by
  obtain ⟨zs, hperm, halike⟩ := h
  have hz : x ∈ zs := hperm.mem_iff.mp hx
  clear hperm hx
  induction halike with
  | nil => cases hz
  | @cons z y zs ys hzy _ ih =>
    rcases List.mem_cons.mp hz with rfl | hz
    · exact ⟨y, List.mem_cons_self, hzy⟩
    · obtain ⟨y', hy', hxy⟩ := ih hz
      exact ⟨y', List.mem_cons_of_mem _ hy', hxy⟩

/-- What entities alike have in common is found equally often. -/
lemma Shuffled.map_perm (key : α → String) (hkey : ∀ x y, alike x y → key x = key y)
    (h : Shuffled alike xs ys) : (xs.map key).Perm (ys.map key) := by
  obtain ⟨zs, hperm, halike⟩ := h
  refine (hperm.map key).trans (.of_eq ?_)
  clear hperm
  induction halike with
  | nil => rfl
  | cons hxy _ ih => rw [List.map_cons, List.map_cons, hkey _ _ hxy, ih]

lemma Shuffled.nodup (key : α → String) (hkey : ∀ x y, alike x y → key x = key y)
    (h : Shuffled alike xs ys) (hd : (xs.map key).Nodup) : (ys.map key).Nodup :=
  (h.map_perm key hkey).nodup_iff.mp hd

/-- With distinct keys an entity has its like under its key. -/
lemma Shuffled.exists_lastAt (key : α → String) (hkey : ∀ x y, alike x y → key x = key y)
    (h : Shuffled alike xs ys) (hd : (ys.map key).Nodup) {k : String}
    (hx : lastAt key k xs = some x) : ∃ y, lastAt key k ys = some y ∧ alike x y := by
  obtain ⟨y, hy, hxy⟩ := h.exists_alike (mem_of_lastAt hx)
  refine ⟨y, ?_, hxy⟩
  rw [← key_of_lastAt hx, hkey _ _ hxy]
  exact lastAt_of_nodup hd hy

/-- With distinct keys a key stands for entities alike, or for none in either list. -/
lemma Shuffled.rel_lastAt (key : α → String) (hkey : ∀ x y, alike x y → key x = key y)
    (h : Shuffled alike xs ys) (hd : (ys.map key).Nodup) (k : String) :
    Option.Rel alike (lastAt key k xs) (lastAt key k ys) := by
  cases hx : lastAt key k xs with
  | some x =>
    obtain ⟨y, hy, hxy⟩ := h.exists_lastAt key hkey hd hx
    rw [hy]
    exact .some hxy
  | none =>
    cases hy : lastAt key k ys with
    | none => exact .none
    | some y =>
      have hmem : key y ∈ xs.map key :=
        (h.map_perm key hkey).mem_iff.mpr (List.mem_map_of_mem (mem_of_lastAt hy))
      obtain ⟨x, hx', hkey'⟩ := List.mem_map.mp hmem
      exact absurd (hkey'.trans (key_of_lastAt hy)) (lastAt_eq_none_iff.mp hx x hx')

/-- Links lead from entities alike to entities alike. -/
lemma Shuffled.exists_links {edges : α → List String} (h : Shuffled alike xs ys)
    (hkey : ∀ x y, alike x y → key x = key y)
    (hedges : ∀ x y, alike x y → ∀ k ∈ edges x, k ∈ edges y) {z : α} (hxy : alike x y)
    (hy : y ∈ ys) (hreach : ReflTransGen (Links xs key edges) x z) :
    ∃ z' ∈ ys, alike z z' ∧ ReflTransGen (Links ys key edges) y z' := by
  induction hreach with
  | refl => exact ⟨y, hy, hxy, .refl⟩
  | tail _ hlink ih =>
    obtain ⟨u, hu, halike, hreach⟩ := ih
    obtain ⟨-, hw, hedge⟩ := hlink
    obtain ⟨v, hv, hwv⟩ := h.exists_alike hw
    exact ⟨v, hv, hwv, hreach.tail ⟨hu, hv, hkey _ _ hwv ▸ hedges _ _ halike _ hedge⟩⟩

/-- With distinct ids an id, where there is one, names entities alike. -/
lemma Shuffled.rel_bind (id name : α → String) (hid : ∀ x y, alike x y → id x = id y)
    (h : Shuffled alike xs ys) (hd : (ys.map id).Nodup) (o : Option String) :
    Option.Rel alike (o.bind (catalogOf id name xs).byId?)
      (o.bind (catalogOf id name ys).byId?) := by
  cases o with
  | none => exact .none
  | some k =>
    rw [Option.bind_some, Option.bind_some, catalogOf_byId?, catalogOf_byId?]
    exact h.rel_lastAt id hid hd k

/-- What a catalog of one list holds has its like in a catalog of the other. -/
lemma Shuffled.exists_all {id name : α → String} (h : Shuffled alike xs ys)
    (hxs : (xs.map id).Nodup) (hys : (ys.map id).Nodup) (hx : x ∈ (catalogOf id name xs).all) :
    ∃ y ∈ (catalogOf id name ys).all, alike x y := by
  obtain ⟨y, hy, hxy⟩ := h.exists_alike ((mem_catalogOf_all hxs).mp hx)
  exact ⟨y, (mem_catalogOf_all hys).mpr hy, hxy⟩

lemma shuffled_of_perm (h : xs.Perm ys) : Shuffled Eq xs ys :=
  ⟨ys, h, List.forall₂_refl ys⟩

end Shuffled

lemma map_eq_of_rel {α β : Type} {r : α → α → Prop} {o o' : Option α} {f g : α → β}
    (h : Option.Rel r o o') (hfg : ∀ x y, r x y → f x = g y) : o.map f = o'.map g := by
  cases h with
  | none => rfl
  | some hxy => rw [Option.map_some, Option.map_some, hfg _ _ hxy]

lemma bind_eq_of_rel {α β : Type} {r : α → α → Prop} {o o' : Option α} {f g : α → Option β}
    (h : Option.Rel r o o') (hfg : ∀ x y, r x y → f x = g y) : o.bind f = o'.bind g := by
  cases h with
  | none => rfl
  | some hxy => rw [Option.bind_some, Option.bind_some, hfg _ _ hxy]

/-- Two orders of one snapshot, ids and names given once. -/
structure Twins (s s' : Snapshot) : Prop where
  rearranged : Rearranged s s'
  ids : DistinctIds s
  ids' : DistinctIds s'
  names : DistinctNames s
  names' : DistinctNames s'

lemma Rearranged.symm {s s' : Snapshot} (h : Rearranged s s') : Rearranged s' s where
  datacenters := h.datacenters.symm fun _ _ => AlikeDatacenters.symm
  projects := h.projects.symm
  groups := h.groups.symm fun _ _ => AlikeGroups.symm
  hosts := h.hosts.symm fun _ _ => AlikeHosts.symm

lemma Twins.symm {s s' : Snapshot} (h : Twins s s') : Twins s' s :=
  ⟨h.rearranged.symm, h.ids', h.ids, h.names', h.names⟩

/-- A rearranged snapshot has the same ids and names. -/
lemma Rearranged.twins {s s' : Snapshot} (h : Rearranged s s') (hids : DistinctIds s)
    (hnames : DistinctNames s) : Twins s s' where
  rearranged := h
  ids := hids
  ids' :=
    { datacenters := h.datacenters.nodup _ (fun _ _ => AlikeDatacenters.id) hids.datacenters
      projects := (h.projects.map _).nodup_iff.mp hids.projects
      groups := h.groups.nodup _ (fun _ _ => AlikeGroups.id) hids.groups
      hosts := h.hosts.nodup _ (fun _ _ => AlikeHosts.id) hids.hosts }
  names := hnames
  names' :=
    { datacenters := h.datacenters.nodup _ (fun _ _ => AlikeDatacenters.name) hnames.datacenters
      projects := (h.projects.map _).nodup_iff.mp hnames.projects
      groups := h.groups.nodup _ (fun _ _ => AlikeGroups.name) hnames.groups
      hosts := h.hosts.nodup _ (fun _ _ => AlikeHosts.fqdn) hnames.hosts }

section Twins

variable {s s' : Snapshot} (t : Twins s s')
include t

/-! ### Selections -/

variable {g g' : HostGroup} {h h' : Host}

lemma Twins.below (hgg' : AlikeGroups g g') (hg' : g' ∈ s'.groups) (hhh' : AlikeHosts h h')
    (hbelow : Below s g h) : Below s' g' h' := by
  obtain ⟨k, hreach, howner⟩ := hbelow
  obtain ⟨k', -, hkk', hreach'⟩ := t.rearranged.groups.exists_links (fun _ _ => AlikeGroups.id)
    (fun _ _ hxy k => (hxy.children k).mp) hgg' hg' hreach
  exact ⟨k', hreach', by rw [← hhh'.groupId, howner, hkk'.id]⟩

lemma Twins.inProject {p : Project} (hhh' : AlikeHosts h h') (hin : InProject s p h) :
    InProject s' p h' := by
  obtain ⟨g, hg, howner, hbelow⟩ := hin
  obtain ⟨g', hg', hgg'⟩ := t.rearranged.groups.exists_alike hg
  exact ⟨g', hg', hgg'.projectId ▸ howner, t.below hgg' hg' hhh' hbelow⟩

lemma Twins.lastAt_project {name : String} {p : Project}
    (hp : lastAt Project.name name s.projects = some p) :
    lastAt Project.name name s'.projects = some p := by
  have hmem : p ∈ s'.projects := t.rearranged.projects.mem_iff.mp (mem_of_lastAt hp)
  rw [← key_of_lastAt hp]
  exact lastAt_of_nodup t.names'.projects hmem

lemma Twins.targets (target : Target) (hh' : h' ∈ s'.hosts) (hhh' : AlikeHosts h h')
    (htarget : Targets s target h) : Targets s' target h' := by
  cases target with
  | host name =>
    have hname : h'.fqdn = name := by rw [← hhh'.fqdn, key_of_lastAt htarget]
    exact hname ▸ lastAt_of_nodup t.names'.hosts hh'
  | group name =>
    obtain ⟨g, hg, hbelow⟩ := htarget
    obtain ⟨g', hg', hgg'⟩ := t.rearranged.groups.exists_lastAt HostGroup.name
      (fun _ _ => AlikeGroups.name) t.names'.groups hg
    exact ⟨g', hg', t.below hgg' (mem_of_lastAt hg') hhh' hbelow⟩
  | project name =>
    obtain ⟨p, hp, hin⟩ := htarget
    exact ⟨p, t.lastAt_project hp, t.inProject hhh' hin⟩
  | entire =>
    obtain ⟨p, hp, hin⟩ := htarget
    exact ⟨p, t.rearranged.projects.mem_iff.mp hp, t.inProject hhh' hin⟩

/-- The groups above a host are alike. -/
lemma Twins.exists_above (hhh' : AlikeHosts h h') {k : HostGroup} (hg : g ∈ s.groups)
    (howner : h.groupId = some g.id)
    (hreach : ReflTransGen (Links s.groups HostGroup.id HostGroup.parentIds) g k) :
    ∃ g' ∈ s'.groups, h'.groupId = some g'.id ∧ ∃ k', AlikeGroups k k' ∧
      ReflTransGen (Links s'.groups HostGroup.id HostGroup.parentIds) g' k' := by
  obtain ⟨g', hg', hgg'⟩ := t.rearranged.groups.exists_alike hg
  obtain ⟨k', -, hkk', hreach'⟩ := t.rearranged.groups.exists_links (fun _ _ => AlikeGroups.id)
    (fun _ _ hxy k => (hxy.parents k).mp) hgg' hg' hreach
  exact ⟨g', hg', by rw [← hhh'.groupId, howner, hgg'.id], k', hkk', hreach'⟩

lemma Twins.tagged (hhh' : AlikeHosts h h') {tag : String} (htagged : Tagged s h tag) :
    Tagged s' h' tag := by
  rcases htagged with htag | ⟨g, hg, howner, k, hreach, htag⟩
  · exact .inl ((hhh'.tags tag).mp htag)
  · obtain ⟨g', hg', howner', k', hkk', hreach'⟩ := t.exists_above hhh' hg howner hreach
    exact .inr ⟨g', hg', howner', k', hreach', (hkk'.tags tag).mp htag⟩

lemma Twins.inDatacenter (hhh' : AlikeHosts h h') {name : String}
    (hin : InDatacenter s h name) : InDatacenter s' h' name := by
  obtain ⟨d, hd, hplace, e, hreach, rfl⟩ := hin
  obtain ⟨d', hd', hdd'⟩ := t.rearranged.datacenters.exists_alike hd
  obtain ⟨e', -, hee', hreach'⟩ := t.rearranged.datacenters.exists_links
    (fun _ _ => AlikeDatacenters.id) (fun _ _ hxy k hk => by rwa [← hxy.parentId]) hdd' hd' hreach
  exact ⟨d', hd', by rw [← hhh'.datacenterId, hplace, hdd'.id], e', hreach', hee'.name.symm⟩

lemma Twins.passes {sel : Selector} (hhh' : AlikeHosts h h') (hpasses : Passes s sel h) :
    Passes s' sel h' where
  datacenter := fun name hname => t.inDatacenter hhh' (hpasses.datacenter name hname)
  tags := fun tags htags tag htag => t.tagged hhh' (hpasses.tags tags htags tag htag)
  fields := fun fields hfields key value hvalue =>
    hhh'.customFields ▸ hpasses.fields fields hfields key value hvalue

lemma Twins.exists_target {target : Target}
    (hh : h ∈ (Store.ofSnapshot s).targetHosts target) :
    ∃ h' ∈ (Store.ofSnapshot s').targetHosts target, AlikeHosts h h' := by
  obtain ⟨hmem, htarget⟩ := (mem_targetHosts_iff t.ids).mp hh
  obtain ⟨h', hmem', hhh'⟩ := t.rearranged.hosts.exists_alike hmem
  exact ⟨h', (mem_targetHosts_iff t.ids').mpr ⟨hmem', t.targets target hmem' hhh' htarget⟩, hhh'⟩

lemma Twins.mem_covers {sel : Selector} {f : String}
    (hf : f ∈ (Store.ofSnapshot s).covers sel) : f ∈ (Store.ofSnapshot s').covers sel := by
  rw [mem_covers_iff] at hf ⊢
  rcases hf with ⟨htarget, hnone, hfilters⟩ | ⟨h, hh, hpasses, rfl⟩
  · -- A host that the other order knew would be known in this one too.
    refine .inl ⟨htarget, List.eq_nil_iff_forall_not_mem.mpr fun h' hh' => ?_, hfilters⟩
    obtain ⟨h, hh, -⟩ := t.symm.exists_target hh'
    rw [hnone] at hh
    cases hh
  · obtain ⟨h', hh', hhh'⟩ := t.exists_target hh
    rw [passes_iff t.ids] at hpasses
    exact .inr ⟨h', hh', (passes_iff t.ids').mpr (t.passes hhh' hpasses), hhh'.fqdn.symm⟩

lemma Twins.covers (sel : Selector) :
    (Store.ofSnapshot s).covers sel = (Store.ofSnapshot s').covers sel :=
  ExtTreeSet.ext_mem fun _ => ⟨t.mem_covers, t.symm.mem_covers⟩

/-! ### Descriptions -/

lemma Twins.rel_datacenter (o : Option String) :
    Option.Rel AlikeDatacenters (o.bind (Store.ofSnapshot s).datacenters.byId?)
      (o.bind (Store.ofSnapshot s').datacenters.byId?) := by
  rw [ofSnapshot_datacenters, ofSnapshot_datacenters]
  exact t.rearranged.datacenters.rel_bind Datacenter.id Datacenter.name
    (fun _ _ => AlikeDatacenters.id) t.ids'.datacenters o

lemma Twins.rel_hostGroup (hhh' : AlikeHosts h h') :
    Option.Rel AlikeGroups ((Store.ofSnapshot s).hostGroup? h)
      ((Store.ofSnapshot s').hostGroup? h') := by
  rw [Store.hostGroup?, Store.hostGroup?, hhh'.groupId, ofSnapshot_groups, ofSnapshot_groups]
  exact t.rearranged.groups.rel_bind HostGroup.id HostGroup.name
    (fun _ _ => AlikeGroups.id) t.ids'.groups h'.groupId

lemma Twins.groupProject? (hgg' : AlikeGroups g g') :
    (Store.ofSnapshot s).groupProject? g = (Store.ofSnapshot s').groupProject? g' := by
  have hrel := (shuffled_of_perm t.rearranged.projects).rel_bind Project.id Project.name
    (fun _ _ => congrArg Project.id) t.ids'.projects g'.projectId
  rw [Store.groupProject?, Store.groupProject?, hgg'.projectId, ofSnapshot_projects,
    ofSnapshot_projects]
  simpa using map_eq_of_rel hrel fun _ _ => id

lemma Twins.hostDatacenter (hhh' : AlikeHosts h h') :
    ((Store.ofSnapshot s).hostDatacenter? h).map Datacenter.name =
      ((Store.ofSnapshot s').hostDatacenter? h').map Datacenter.name := by
  rw [Store.hostDatacenter?, Store.hostDatacenter?, hhh'.datacenterId]
  exact map_eq_of_rel (t.rel_datacenter _) fun _ _ => AlikeDatacenters.name

lemma Twins.hostRootDatacenter (hhh' : AlikeHosts h h') :
    ((Store.ofSnapshot s).hostRootDatacenter? h).map Datacenter.name =
      ((Store.ofSnapshot s').hostRootDatacenter? h').map Datacenter.name := by
  rw [Store.hostRootDatacenter?, Store.hostRootDatacenter?, Store.hostDatacenter?,
    Store.hostDatacenter?, hhh'.datacenterId, Option.map_bind, Option.map_bind]
  refine bind_eq_of_rel (t.rel_datacenter _) fun d d' hdd' => ?_
  rw [Function.comp_apply, Function.comp_apply, Store.datacenterRoot?, Store.datacenterRoot?,
    hdd'.rootId]
  exact map_eq_of_rel (t.rel_datacenter _) fun _ _ => AlikeDatacenters.name

lemma Twins.mem_groupNames (hhh' : AlikeHosts h h') {name : String}
    (hname : name ∈ ((Store.ofSnapshot s).hostGroups h).map HostGroup.name) :
    name ∈ ((Store.ofSnapshot s').hostGroups h').map HostGroup.name := by
  obtain ⟨k, hk, rfl⟩ := List.mem_map.mp hname
  obtain ⟨g, hg, howner, hreach⟩ := (mem_hostGroups_iff t.ids).mp hk
  obtain ⟨g', hg', howner', k', hkk', hreach'⟩ := t.exists_above hhh' hg howner hreach
  rw [hkk'.name]
  exact List.mem_map_of_mem ((mem_hostGroups_iff t.ids').mpr ⟨g', hg', howner', hreach'⟩)

lemma Twins.groupNames (hhh' : AlikeHosts h h') :
    (ExtTreeSet.ofList (((Store.ofSnapshot s).hostGroups h).map HostGroup.name) : NameSet) =
      ExtTreeSet.ofList (((Store.ofSnapshot s').hostGroups h').map HostGroup.name) := by
  refine ExtTreeSet.ext_mem fun name => ?_
  rw [ExtTreeSet.mem_ofList, ExtTreeSet.mem_ofList, List.contains_iff_mem, List.contains_iff_mem]
  exact ⟨t.mem_groupNames hhh', t.symm.mem_groupNames hhh'.symm⟩

lemma Twins.hostTags (hhh' : AlikeHosts h h') :
    (Store.ofSnapshot s).hostTags h = (Store.ofSnapshot s').hostTags h' := by
  refine ExtTreeSet.ext_mem fun tag => ?_
  rw [mem_hostTags_iff t.ids, mem_hostTags_iff t.ids']
  exact ⟨t.tagged hhh', t.symm.tagged hhh'.symm⟩

lemma Twins.describe (name : String) :
    (Store.ofSnapshot s).describe name = (Store.ofSnapshot s').describe name := by
  have hfind : Option.Rel AlikeHosts ((Store.ofSnapshot s).hosts.find? name)
      ((Store.ofSnapshot s').hosts.find? name) := by
    rw [ofSnapshot_hosts, ofSnapshot_hosts, catalogOf_find?_of_nodup t.ids.hosts,
      catalogOf_find?_of_nodup t.ids'.hosts]
    exact t.rearranged.hosts.rel_lastAt Host.fqdn (fun _ _ => AlikeHosts.fqdn) t.names'.hosts name
  rw [Store.describe, Store.describe]
  generalize (Store.ofSnapshot s).hosts.find? name = o at hfind
  generalize (Store.ofSnapshot s').hosts.find? name = o' at hfind
  cases hfind with
  | none => rfl
  | some hhh' =>
    have hproject := bind_eq_of_rel (t.rel_hostGroup hhh') fun _ _ => t.groupProject?
    simp only [hproject, t.groupNames hhh', t.hostTags hhh', t.hostDatacenter hhh',
      t.hostRootDatacenter hhh', hhh'.fqdn, hhh'.customFields]

/-! ### Completions -/

lemma Twins.mem_names (domain : Domain) {n : String}
    (hn : n ∈ (Store.ofSnapshot s).names domain) : n ∈ (Store.ofSnapshot s').names domain := by
  have hhosts : ∀ h ∈ (Store.ofSnapshot s).hosts.all,
      ∃ h' ∈ (Store.ofSnapshot s').hosts.all, AlikeHosts h h' := by
    rw [ofSnapshot_hosts, ofSnapshot_hosts]
    exact fun _ => t.rearranged.hosts.exists_all t.ids.hosts t.ids'.hosts
  cases domain with
  | hosts =>
    obtain ⟨h, hh, rfl⟩ := List.mem_map.mp hn
    obtain ⟨h', hh', hhh'⟩ := hhosts h hh
    exact List.mem_map.mpr ⟨h', hh', hhh'.fqdn.symm⟩
  | groups =>
    rw [Store.names, ofSnapshot_groups] at hn ⊢
    obtain ⟨g, hg, rfl⟩ := List.mem_map.mp hn
    obtain ⟨g', hg', hgg'⟩ := t.rearranged.groups.exists_all t.ids.groups t.ids'.groups hg
    exact List.mem_map.mpr ⟨g', hg', hgg'.name.symm⟩
  | projects =>
    rw [Store.names, ofSnapshot_projects] at hn ⊢
    obtain ⟨p, hp, rfl⟩ := List.mem_map.mp hn
    obtain ⟨p', hp', rfl⟩ :=
      (shuffled_of_perm t.rearranged.projects).exists_all t.ids.projects t.ids'.projects hp
    exact List.mem_map_of_mem hp'
  | datacenters =>
    rw [Store.names, ofSnapshot_datacenters] at hn ⊢
    obtain ⟨d, hd, rfl⟩ := List.mem_map.mp hn
    obtain ⟨d', hd', hdd'⟩ :=
      t.rearranged.datacenters.exists_all t.ids.datacenters t.ids'.datacenters hd
    exact List.mem_map.mpr ⟨d', hd', hdd'.name.symm⟩
  | tags =>
    obtain ⟨h, hh, htag⟩ := List.mem_flatMap.mp hn
    obtain ⟨h', hh', hhh'⟩ := hhosts h hh
    exact List.mem_flatMap.mpr ⟨h', hh', (hhh'.tags n).mp htag⟩
  | fieldKeys | fieldValues =>
    obtain ⟨h, hh, hfield⟩ := List.mem_flatMap.mp hn
    obtain ⟨h', hh', hhh'⟩ := hhosts h hh
    exact List.mem_flatMap.mpr ⟨h', hh', hhh'.customFields ▸ hfield⟩

lemma Twins.index : Index.ofStore (Store.ofSnapshot s) = Index.ofStore (Store.ofSnapshot s') := by
  have hcompleter : ∀ domain, Completer.ofList ((Store.ofSnapshot s).names domain) =
      Completer.ofList ((Store.ofSnapshot s').names domain) :=
    fun domain => ofList_congr fun _ => ⟨t.mem_names domain, t.symm.mem_names domain⟩
  simp only [Index.ofStore, hcompleter]

end Twins

/-- Where ids and names are given once, a store's answers do not depend on the order in which the
inventory comes. -/
theorem answers_of_rearranged {s s' : Snapshot} (hids : DistinctIds s) (hnames : DistinctNames s)
    (h : Rearranged s s') :
    (∀ expr, (Store.ofSnapshot s).resolve expr = (Store.ofSnapshot s').resolve expr) ∧
      (∀ name, (Store.ofSnapshot s).describe name = (Store.ofSnapshot s').describe name) ∧
      Index.ofStore (Store.ofSnapshot s) = Index.ofStore (Store.ofSnapshot s') := by
  have t := h.twins hids hnames
  exact ⟨resolve_congr t.covers, t.describe, t.index⟩

/-- Two groups below each other, a host in a rack, and its tags. -/
def rackSnapshot : Snapshot :=
  { datacenters :=
      [⟨"1", "dc", none, none, none, ["2", "3"]⟩, ⟨"2", "rack", none, some "1", some "1", []⟩]
    projects := [⟨"1", "shop", none, none, none, none⟩, ⟨"2", "mail", none, none, none, none⟩]
    groups :=
      [⟨"1", "web", none, some "1", ["2"], ["2", "9"], ["prod"]⟩,
       ⟨"2", "db", none, none, ["1"], ["1"], []⟩]
    hosts :=
      [⟨"7", "a.x", none, some "2", some "2", none, ["new", "old"], [⟨"os", "bsd"⟩]⟩,
       ⟨"8", "b.x", none, some "1", none, none, [], []⟩] }

/-- The same from the last entity to the first, with references and tags repeated. -/
def rackSnapshotReversed : Snapshot :=
  { datacenters :=
      [⟨"2", "rack", none, some "1", some "1", []⟩,
       ⟨"1", "dc", none, none, none, ["3", "2", "3"]⟩]
    projects := [⟨"2", "mail", none, none, none, none⟩, ⟨"1", "shop", none, none, none, none⟩]
    groups :=
      [⟨"2", "db", none, none, ["1", "1"], ["1", "1"], []⟩,
       ⟨"1", "web", none, some "1", ["2", "2"], ["9", "2"], ["prod", "prod"]⟩]
    hosts :=
      [⟨"8", "b.x", none, some "1", none, none, [], []⟩,
       ⟨"7", "a.x", none, some "2", some "2", none, ["old", "new", "old"], [⟨"os", "bsd"⟩]⟩] }

lemma rearranged_rackSnapshot : Rearranged rackSnapshot rackSnapshotReversed where
  datacenters := ⟨_, .swap _ _ _, .cons ⟨fun _ => .rfl, rfl⟩
    (.cons ⟨by simp [SameMembers], rfl⟩ .nil)⟩
  projects := .swap _ _ _
  groups := ⟨_, .swap _ _ _, .cons
    ⟨by simp [SameMembers], by simp [SameMembers], fun _ => .rfl, rfl⟩
    (.cons ⟨by simp [SameMembers], by simp [SameMembers, or_comm], by simp [SameMembers], rfl⟩
      .nil)⟩
  hosts := ⟨_, .swap _ _ _, .cons ⟨fun _ => .rfl, rfl⟩
    (.cons ⟨by simp [SameMembers, or_comm], rfl⟩ .nil)⟩

theorem answers_of_rearranged_rack :
    DistinctIds rackSnapshot ∧ DistinctNames rackSnapshot ∧
      Rearranged rackSnapshot rackSnapshotReversed ∧
      (∀ expr, (Store.ofSnapshot rackSnapshot).resolve expr =
        (Store.ofSnapshot rackSnapshotReversed).resolve expr) ∧
      (∀ name, (Store.ofSnapshot rackSnapshot).describe name =
        (Store.ofSnapshot rackSnapshotReversed).describe name) ∧
      Index.ofStore (Store.ofSnapshot rackSnapshot) =
        Index.ofStore (Store.ofSnapshot rackSnapshotReversed) := by
  have hids : DistinctIds rackSnapshot := by constructor <;> decide
  have hnames : DistinctNames rackSnapshot := by constructor <;> decide
  exact ⟨hids, hnames, rearranged_rackSnapshot,
    answers_of_rearranged hids hnames rearranged_rackSnapshot⟩

end HostFleet.Proofs
