import HostFleet.Names
import Mathlib

/-!
# Look-ups in maps of names

What a `NameMap` lists and tests, said through its look-ups, and the look-ups in a map to which
the entries of a list were added in turn. The entry that counts is the last one with the key,
`lastAt`.
-/

namespace HostFleet.Proofs
open Std DTreeMap.Internal

variable {α β : Type}

lemma values_eq_map_snd (m : NameMap α) : m.values = m.toList.map Prod.snd := by
  obtain ⟨⟨q⟩⟩ := m
  induction q using Quotient.ind with
  | _ t =>
    change t.inner.values = (Impl.Const.toList t.inner).map Prod.snd
    rw [Impl.values_eq_map_snd, Impl.Const.toList_eq_toListModel_map, List.map_map]
    rfl

lemma mem_values_iff {m : NameMap α} {x : α} : x ∈ m.values ↔ ∃ k : String, m[k]? = some x := by
  rw [values_eq_map_snd, List.mem_map]
  constructor
  · rintro ⟨⟨k, y⟩, hmem, rfl⟩
    exact ⟨k, ExtTreeMap.mem_toList_iff_getElem?_eq_some.mp hmem⟩
  · rintro ⟨k, hk⟩
    exact ⟨(k, x), ExtTreeMap.mem_toList_iff_getElem?_eq_some.mpr hk, rfl⟩

/-- A map is told by its entries. -/
lemma ofList_toList (m : NameMap α) : (ExtTreeMap.ofList m.toList : NameMap α) = m := by
  refine ExtTreeMap.ext_getElem? fun k => ?_
  cases hk : m[k]? with
  | some x =>
    exact ExtTreeMap.getElem?_ofList_of_mem compare_self ExtTreeMap.distinct_keys_toList
      (ExtTreeMap.mem_toList_iff_getElem?_eq_some.mpr hk)
  | none =>
    refine ExtTreeMap.getElem?_ofList_of_contains_eq_false ?_
    have habsent : k ∉ m := by simp [ExtTreeMap.mem_iff_isSome_getElem?, hk]
    simpa [ExtTreeMap.map_fst_toList_eq_keys, ExtTreeMap.mem_keys] using habsent

lemma set_ofList_toList (s : NameSet) : (ExtTreeSet.ofList s.toList : NameSet) = s :=
  ExtTreeSet.ext_mem fun x => by
    rw [ExtTreeSet.mem_ofList, List.contains_iff_mem, ExtTreeSet.mem_toList]

lemma impl_all_eq (t : Impl α (fun _ => β)) (p : α → β → Bool) :
    t.all p = t.toListModel.all fun e => p e.1 e.2 := by
  unfold Impl.all
  simp only [ForIn.forIn]
  rw [Impl.forIn_eq_forIn_toListModel]
  induction t.toListModel with
  | nil => rfl
  | cons e es ih =>
    rw [List.forIn_cons, List.all_cons]
    by_cases he : p e.1 e.2 = false
    · simp only [he, if_true, Bool.false_and]
      rfl
    · rw [if_neg he, eq_true_of_ne_false he, Bool.true_and, ← ih]
      rfl

lemma all_eq_all_toList (m : NameMap α) (p : String → α → Bool) :
    m.all p = m.toList.all fun e => p e.1 e.2 := by
  obtain ⟨⟨q⟩⟩ := m
  induction q using Quotient.ind with
  | _ t =>
    change t.inner.all p = (Impl.Const.toList t.inner).all fun e => p e.1 e.2
    rw [impl_all_eq, Impl.Const.toList_eq_toListModel_map, List.all_map]
    rfl

lemma map_all_iff {m : NameMap α} {p : String → α → Bool} :
    m.all p = true ↔ ∀ (k : String) (v : α), m[k]? = some v → p k v = true := by
  rw [all_eq_all_toList, List.all_eq_true]
  constructor
  · intro h k v hk
    exact h (k, v) (ExtTreeMap.mem_toList_iff_getElem?_eq_some.mpr hk)
  · rintro h ⟨k, v⟩ hmem
    exact h k v (ExtTreeMap.mem_toList_iff_getElem?_eq_some.mp hmem)

lemma set_all_iff {s : NameSet} {p : String → Bool} :
    s.all p = true ↔ ∀ k ∈ s, p k = true := by
  change s.inner.all (fun k _ => p k) = true ↔ _
  rw [map_all_iff]
  constructor
  · intro h k hk
    have hsome : s.inner[k]?.isSome := ExtTreeMap.mem_iff_isSome_getElem?.mp hk
    obtain ⟨u, hu⟩ := Option.isSome_iff_exists.mp hsome
    exact h k u hu
  · intro h k u hu
    refine h k ?_
    change k ∈ s.inner
    exact ExtTreeMap.mem_iff_isSome_getElem?.mpr (by rw [hu]; rfl)

/-! ### The last entry with a key -/

/-- The last element that `key` sends to `k`. -/
def lastAt (key : α → String) (k : String) (xs : List α) : Option α :=
  xs.reverse.find? fun x => key x == k

section LastAt

variable {key : α → String} {k : String} {xs : List α} {x : α}

@[simp] lemma lastAt_nil : lastAt key k [] = none := rfl

lemma lastAt_cons : lastAt key k (x :: xs) =
    (lastAt key k xs).or (if key x = k then some x else none) := by
  rw [lastAt, List.reverse_cons, List.find?_append]
  by_cases hk : key x = k <;> simp [lastAt, hk]

lemma lastAt_eq_none_iff : lastAt key k xs = none ↔ ∀ y ∈ xs, key y ≠ k := by
  simp [lastAt]

/-- What is listed has a last element with its key. -/
lemma exists_lastAt (key : α → String) (hx : x ∈ xs) : ∃ y, lastAt key (key x) xs = some y := by
  cases hlast : lastAt key (key x) xs with
  | none => exact absurd rfl (lastAt_eq_none_iff.mp hlast x hx)
  | some y => exact ⟨y, rfl⟩

lemma mem_of_lastAt (h : lastAt key k xs = some x) : x ∈ xs :=
  List.mem_reverse.mp (List.mem_of_find?_eq_some h)

lemma key_of_lastAt (h : lastAt key k xs = some x) : key x = k := by
  simpa using List.find?_some h

/-- The last element with its key stands before none that has the key too. -/
lemma lastAt_eq_some_iff : lastAt key (key x) xs = some x ↔
    ∃ before after, xs = before ++ x :: after ∧ ∀ z ∈ after, key z ≠ key x := by
  constructor
  · intro hlast
    induction xs with
    | nil => cases hlast
    | cons w ws ih =>
      rw [lastAt_cons] at hlast
      cases hws : lastAt key (key x) ws with
      | some x' =>
        obtain rfl : x' = x := by simpa [hws] using hlast
        obtain ⟨before, after, rfl, hafter⟩ := ih hws
        exact ⟨w :: before, after, rfl, hafter⟩
      | none =>
        rw [hws, Option.none_or] at hlast
        obtain ⟨-, hwx⟩ := Option.ite_none_right_eq_some.mp hlast
        obtain rfl := Option.some.inj hwx
        exact ⟨[], ws, rfl, lastAt_eq_none_iff.mp hws⟩
  · rintro ⟨before, after, rfl, hafter⟩
    induction before with
    | nil =>
      rw [List.nil_append, lastAt_cons, lastAt_eq_none_iff.mpr hafter, if_pos rfl]
      rfl
    | cons w ws ih => rw [List.cons_append, lastAt_cons, ih, Option.some_or]

/-- With distinct keys every element is the last one with its key. -/
lemma lastAt_of_nodup (hd : (xs.map key).Nodup) (hx : x ∈ xs) :
    lastAt key (key x) xs = some x := by
  induction xs with
  | nil => simp at hx
  | cons y ys ih =>
    rw [List.map_cons, List.nodup_cons] at hd
    rw [lastAt_cons]
    rcases List.mem_cons.mp hx with rfl | hx
    · have hnone : lastAt key (key x) ys = none := by
        rw [lastAt_eq_none_iff]
        intro z hz heq
        exact hd.1 (heq ▸ List.mem_map_of_mem hz)
      rw [hnone, if_pos rfl]
      rfl
    · rw [ih hd.2 hx]
      rfl

/-- Elements with distinct keys are told apart by them. -/
lemma eq_of_key_eq (hd : (xs.map key).Nodup) {y : α} (hx : x ∈ xs) (hy : y ∈ xs)
    (heq : key x = key y) : x = y := by
  have hlast := lastAt_of_nodup hd hx
  rw [heq, lastAt_of_nodup hd hy] at hlast
  exact (Option.some.inj hlast).symm

end LastAt

/-- Adding the elements of a list in turn leaves under each key what the last element with that
key stands for. -/
theorem getElem?_foldl_insert (key : α → String) (value : α → β) (xs : List α)
    (m : NameMap β) (k : String) :
    (xs.foldl (fun m x => m.insert (key x) (value x)) m)[k]? =
      ((lastAt key k xs).map value).or m[k]? := by
  induction xs generalizing m with
  | nil => rfl
  | cons x xs ih =>
    rw [List.foldl_cons, ih, ExtTreeMap.getElem?_insert, lastAt_cons]
    by_cases hk : key x = k
    · cases lastAt key k xs <;> simp [hk]
    · cases lastAt key k xs <;> simp [hk]

end HostFleet.Proofs
