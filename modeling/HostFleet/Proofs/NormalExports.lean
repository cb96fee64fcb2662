import HostFleet.Proofs.ExportedStore
import HostFleet.Proofs.Utf8Text

/-!
# Exports as normal forms

The export of a store that was built from a snapshot lists each id of the snapshot once, in the
order of the bytes of the ids, with the last entity that the id was given to. There is only one
such list, so a store that is built from an export has the same export again.
-/

namespace HostFleet.Proofs

/-! ### Normal forms -/

/-- The list `ys` has each id of `xs` once, in the order of the bytes of the ids, with the last
entity of `xs` that it was given to. -/
structure NormalForm {α : Type} (id : α → String) (xs ys : List α) : Prop where
  ids : ∀ k, (∃ y ∈ ys, id y = k) ↔ ∃ x ∈ xs, id x = k
  ascending : ys.Pairwise fun x y => Utf8.encode (id x) < Utf8.encode (id y)
  last : ∀ y ∈ ys, ∃ before after, xs = before ++ y :: after ∧ ∀ z ∈ after, id z ≠ id y

section NormalForm

variable {α : Type} {id name : α → String} {xs ys zs : List α}

/-- A catalog lists the normal form of the entities that were put into it. -/
theorem normalForm_all : NormalForm id xs (catalogOf id name xs).all := by
  have hids : ∀ k, (∃ y ∈ (catalogOf id name xs).all, id y = k) ↔ ∃ x ∈ xs, id x = k := by
    intro k
    constructor
    · rintro ⟨y, hy, hid⟩
      exact ⟨y, mem_of_mem_all hy, hid⟩
    · rintro ⟨x, hx, rfl⟩
      obtain ⟨y, hlast⟩ := exists_lastAt id hx
      have hid := key_of_lastAt hlast
      rw [← hid] at hlast
      exact ⟨y, mem_all_iff.mpr hlast, hid⟩
  have hordered : (catalogOf id name xs).all.Pairwise fun x y => id x < id y := pairwise_all
  refine ⟨hids, hordered.imp encode_lt, ?_⟩
  intro y hy
  exact lastAt_eq_some_iff.mp (mem_all_iff.mp hy)

lemma NormalForm.nodup (h : NormalForm id xs ys) : ys.Nodup := by
  refine h.ascending.imp ?_
  rintro x y hlt rfl
  exact List.lt_irrefl _ hlt

lemma NormalForm.subset (h : NormalForm id xs ys) (h' : NormalForm id xs zs) : ys ⊆ zs := by
  intro y hy
  obtain ⟨z, hz, hid⟩ := (h'.ids (id y)).mpr ((h.ids (id y)).mp ⟨y, hy, rfl⟩)
  have hlast := lastAt_eq_some_iff.mpr (h.last y hy)
  have hlast' := lastAt_eq_some_iff.mpr (h'.last z hz)
  rw [hid, hlast] at hlast'
  rwa [Option.some.inj hlast']

/-- There is only one normal form. -/
theorem NormalForm.unique (h : NormalForm id xs ys) (h' : NormalForm id xs zs) : ys = zs := by
  have hmem : ∀ x, x ∈ ys ↔ x ∈ zs := fun x => ⟨fun hx => h.subset h' hx, fun hx => h'.subset h hx⟩
  have hperm : ys.Perm zs := (List.perm_ext_iff_of_nodup h.nodup h'.nodup).mpr hmem
  refine hperm.eq_of_pairwise ?_ h.ascending h'.ascending
  intro x y _ _ hlt hgt
  exact absurd hgt (List.lt_asymm hlt)

/-- A normal form is its own. -/
lemma NormalForm.again (h : NormalForm id xs ys) : NormalForm id ys ys where
  ids _ := Iff.rfl
  ascending := h.ascending
  last y hy := by
    obtain ⟨before, after, rfl⟩ := List.append_of_mem hy
    refine ⟨before, after, rfl, ?_⟩
    intro z hz heq
    have hlt := (List.pairwise_cons.mp (List.pairwise_append.mp h.ascending).2.1).1 z hz
    rw [heq] at hlt
    exact List.lt_irrefl _ hlt

end NormalForm

/-! ### Exports -/

/-- The snapshot `e` lists the normal form of each of the four lists of `s`. -/
structure NormalSnapshot (s e : Snapshot) : Prop where
  datacenters : NormalForm Datacenter.id s.datacenters e.datacenters
  projects : NormalForm Project.id s.projects e.projects
  groups : NormalForm HostGroup.id s.groups e.groups
  hosts : NormalForm Host.id s.hosts e.hosts

lemma normalSnapshot_toSnapshot (s : Snapshot) :
    NormalSnapshot s (Store.ofSnapshot s).toSnapshot := by
  simp only [Store.toSnapshot, ofSnapshot_eq]
  exact ⟨normalForm_all, normalForm_all, normalForm_all, normalForm_all⟩

lemma NormalSnapshot.unique {s e e' : Snapshot} (h : NormalSnapshot s e)
    (h' : NormalSnapshot s e') : e = e' := by
  obtain ⟨datacenters, projects, groups, hosts⟩ := e
  obtain ⟨datacenters', projects', groups', hosts'⟩ := e'
  obtain rfl : datacenters = datacenters' := h.datacenters.unique h'.datacenters
  obtain rfl : projects = projects' := h.projects.unique h'.projects
  obtain rfl : groups = groups' := h.groups.unique h'.groups
  obtain rfl : hosts = hosts' := h.hosts.unique h'.hosts
  rfl

lemma NormalSnapshot.again {s e : Snapshot} (h : NormalSnapshot s e) : NormalSnapshot e e :=
  ⟨h.datacenters.again, h.projects.again, h.groups.again, h.hosts.again⟩

/-- The export of a store that was built from a snapshot is the normal form of the snapshot, and no
other snapshot is. So a store that is built from an export is exported as what it was built from. -/
theorem export_normalForm (s : Snapshot) :
    (∀ e, (Store.ofSnapshot s).toSnapshot = e ↔ NormalSnapshot s e) ∧
    (Store.ofSnapshot (Store.ofSnapshot s).toSnapshot).toSnapshot =
      (Store.ofSnapshot s).toSnapshot := by
  have hnormal := normalSnapshot_toSnapshot s
  refine ⟨fun e => ⟨?_, ?_⟩, ?_⟩
  · rintro rfl
    exact hnormal
  · intro he
    exact hnormal.unique he
  · exact (normalSnapshot_toSnapshot _).unique hnormal.again

end HostFleet.Proofs
