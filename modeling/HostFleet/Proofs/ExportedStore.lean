import HostFleet.Description
import HostFleet.Proofs.EntityGraph

/-!
# Stores rebuilt from their export

An export lists the entities that count, by id, and not in the order in which they came. A store
that is built from it knows the same entities. It answers as before when the last entity with a
name also is the last one by id, and when no entity that was replaced had another owner; this is
`Settled`.
-/

namespace HostFleet.Proofs
open Std

section Export

variable {α : Type} {id name : α → String} {xs : List α}

/-- What is exported is the last entity with each id. -/
theorem mem_all_iff {x : α} : x ∈ (catalogOf id name xs).all ↔ lastAt id (id x) xs = some x := by
  rw [Catalog.all, mem_values_iff]
  simp only [catalogOf_byId]
  constructor
  · rintro ⟨k, hk⟩
    rw [key_of_lastAt hk]
    exact hk
  · intro hx
    exact ⟨id x, hx⟩

lemma mem_of_mem_all {x : α} (hx : x ∈ (catalogOf id name xs).all) : x ∈ xs :=
  mem_of_lastAt (mem_all_iff.mp hx)

/-- The export is in the order of the ids. -/
theorem pairwise_all : (catalogOf id name xs).all.Pairwise fun x y => id x < id y := by
  have hid : ∀ pair ∈ (catalogOf id name xs).byId.toList, pair.1 = id pair.2 := by
    rintro ⟨k, x⟩ hmem
    have hx := ExtTreeMap.mem_toList_iff_getElem?_eq_some.mp hmem
    rw [catalogOf_byId] at hx
    exact (key_of_lastAt hx).symm
  rw [Catalog.all, values_eq_map_snd, List.pairwise_map]
  refine ExtTreeMap.ordered_keys_toList.imp_of_mem fun hx hy hlt => ?_
  rw [← hid _ hx, ← hid _ hy]
  exact compareOfLessAndEq_eq_lt.mp hlt

lemma nodup_all : ((catalogOf id name xs).all.map id).Nodup := by
  rw [List.nodup_iff_pairwise_ne, List.pairwise_map]
  exact pairwise_all.imp fun hlt heq => absurd (heq ▸ hlt) (String.lt_irrefl _)

/-- The entities by id are those of the export. -/
theorem catalogOf_all_byId :
    (catalogOf id name (catalogOf id name xs).all).byId = (catalogOf id name xs).byId := by
  refine ExtTreeMap.ext_getElem? fun k => Option.ext fun x => ?_
  rw [catalogOf_byId_iff nodup_all, mem_all_iff, catalogOf_byId]
  constructor
  · rintro ⟨hx, rfl⟩
    exact hx
  · intro hx
    obtain rfl := key_of_lastAt hx
    exact ⟨hx, rfl⟩

/-! ### Names -/

/-- In a sorted list the last entity with a name is the greatest of those with it. -/
lemma id_le_of_lastAt {ys : List α} (hs : ys.Pairwise fun x y => id x < id y) {n : String} {x : α}
    (hx : lastAt name n ys = some x) : ∀ y ∈ ys, name y = n → id y ≤ id x := by
  induction ys with
  | nil => cases hx
  | cons w ws ih =>
    obtain ⟨hw, hws⟩ := List.pairwise_cons.mp hs
    rw [lastAt_cons] at hx
    intro y hy hname
    cases hlast : lastAt name n ws with
    | some x' =>
      obtain rfl : x' = x := by simpa [hlast] using hx
      rcases List.mem_cons.mp hy with rfl | hy
      · exact Std.le_of_lt (hw x' (mem_of_lastAt hlast))
      · exact ih hws hlast y hy hname
    | none =>
      rcases List.mem_cons.mp hy with rfl | hy
      · obtain rfl : y = x := by simpa [hlast, hname] using hx
        exact String.le_refl _
      · exact absurd hname (lastAt_eq_none_iff.mp hlast y hy)

lemma lastAt_all_iff {n : String} {x : α} :
    lastAt name n (catalogOf id name xs).all = some x ↔
      lastAt id (id x) xs = some x ∧ name x = n ∧
        ∀ y, lastAt id (id y) xs = some y → name y = n → id y ≤ id x := by
  have hall : ∀ y, lastAt id (id y) xs = some y ↔ y ∈ (catalogOf id name xs).all :=
    fun _ => mem_all_iff.symm
  simp only [hall]
  constructor
  · intro hx
    exact ⟨mem_of_lastAt hx, key_of_lastAt hx, id_le_of_lastAt pairwise_all hx⟩
  · rintro ⟨hx, hname, hmax⟩
    obtain ⟨x', hx'⟩ := exists_lastAt name hx
    rw [hname] at hx'
    have hle := hmax x' (mem_of_lastAt hx') (key_of_lastAt hx')
    have hge := id_le_of_lastAt pairwise_all hx' x hx hname
    rw [hx', eq_of_key_eq nodup_all (mem_of_lastAt hx') hx (String.le_antisymm hle hge)]

/-- The last entity with a name is not replaced, and no other with that name has a greater id. -/
def NamesSettled (id name : α → String) (xs : List α) : Prop :=
  ∀ x, lastAt name (name x) xs = some x → lastAt id (id x) xs = some x ∧
    ∀ y, lastAt id (id y) xs = some y → name y = name x → id y ≤ id x

/-- The last entity with an id that also has the name of the last one with that name is it. -/
lemma eq_of_lastAt {x z : α} (hx : lastAt name (name x) xs = some x)
    (hz : lastAt id (id x) xs = some z) (hname : name z = name x) : z = x := by
  induction xs with
  | nil => cases hx
  | cons w ws ih =>
    rw [lastAt_cons] at hx hz
    cases hlast : lastAt name (name x) ws with
    | some x' =>
      obtain rfl : x' = x := by simpa [hlast] using hx
      obtain ⟨z', hz'⟩ := exists_lastAt id (mem_of_lastAt hlast)
      obtain rfl : z' = z := by simpa [hz'] using hz
      exact ih hlast hz'
    | none =>
      rw [hlast, Option.none_or] at hx
      obtain ⟨-, hwx⟩ := Option.ite_none_right_eq_some.mp hx
      cases hlast' : lastAt id (id x) ws with
      | some z' =>
        obtain rfl : z' = z := by simpa [hlast'] using hz
        exact absurd hname (lastAt_eq_none_iff.mp hlast z' (mem_of_lastAt hlast'))
      | none =>
        obtain rfl := Option.some.inj hwx
        simpa [hlast'] using hz.symm

/-- Names find the same entities after an export just when they are settled. -/
theorem namesSettled_iff : NamesSettled id name xs ↔ ∀ n,
    (catalogOf id name (catalogOf id name xs).all).find? n = (catalogOf id name xs).find? n := by
  simp only [catalogOf_find?_of_nodup nodup_all, catalogOf_find?]
  constructor
  · intro hsettled n
    cases hlast : lastAt name n xs with
    | none =>
      rw [Option.bind_none, lastAt_eq_none_iff]
      intro y hy
      exact lastAt_eq_none_iff.mp hlast y (mem_of_mem_all hy)
    | some x =>
      obtain rfl := key_of_lastAt hlast
      obtain ⟨hx, hmax⟩ := hsettled x hlast
      rw [Option.bind_some, hx, lastAt_all_iff]
      exact ⟨hx, rfl, hmax⟩
  · intro hfind x hx
    obtain ⟨z, hz⟩ := exists_lastAt id (mem_of_lastAt hx)
    have hfound := hfind (name x)
    rw [hx, Option.bind_some, hz, lastAt_all_iff] at hfound
    obtain ⟨-, hname, hmax⟩ := hfound
    obtain rfl := eq_of_lastAt hx hz hname
    exact ⟨hz, hmax⟩

/-! ### Owners -/

variable {owner : α → Option String}

/-- No entity with this owner is replaced by one without. -/
def OwnerSettled (owner : α → Option String) (id : α → String) (xs : List α) (k : String) : Prop :=
  ∀ x ∈ xs, owner x = some k → ∃ y, lastAt id (id x) xs = some y ∧ owner y = some k

/-- An owner has the same members after an export just when it is settled. -/
theorem ownerSettled_iff (name : α → String) {k : String} : OwnerSettled owner id xs k ↔
    ((membersOf owner id (catalogOf id name xs).all).getD k ∅).toList.filterMap
        (catalogOf id name (catalogOf id name xs).all).byId? =
      ((membersOf owner id xs).getD k ∅).toList.filterMap (catalogOf id name xs).byId? := by
  have hbyId : (catalogOf id name (catalogOf id name xs).all).byId? =
      (catalogOf id name xs).byId? := by
    funext i
    rw [Catalog.byId?, catalogOf_all_byId, Catalog.byId?]
  constructor
  · intro hsettled
    rw [hbyId]
    congr 2
    refine ExtTreeSet.ext_mem fun i => ?_
    simp only [mem_membersOf]
    constructor
    · rintro ⟨x, hx, howner, rfl⟩
      exact ⟨x, mem_of_mem_all hx, howner, rfl⟩
    · rintro ⟨x, hx, howner, rfl⟩
      obtain ⟨y, hy, howner'⟩ := hsettled x hx howner
      have hid := key_of_lastAt hy
      rw [← hid] at hy
      exact ⟨y, mem_all_iff.mpr hy, howner', hid⟩
  · intro heq x hx howner
    obtain ⟨z, hz⟩ := exists_lastAt id hx
    have hid := key_of_lastAt hz
    have hmem : z ∈ ((membersOf owner id xs).getD k ∅).toList.filterMap
        (catalogOf id name xs).byId? := by
      rw [mem_members_iff, hid]
      exact ⟨hz, x, hx, howner, rfl⟩
    rw [← heq] at hmem
    exact ⟨z, hz, ((mem_members_iff_of_nodup nodup_all).mp hmem).2⟩

end Export

end HostFleet.Proofs
