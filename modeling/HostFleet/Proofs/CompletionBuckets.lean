import HostFleet.Completion.Index
import HostFleet.Proofs.StoreIndex

/-!
# Buckets of completers

A completer that was filled from a list keeps under each key the items of the list that have the
key, and no bucket is empty. Nothing else can be told of the list from it, neither its order nor
how often an item stands in it.
-/

namespace HostFleet.Proofs
open Std Completer

variable {buckets buckets' : NameMap NameSet} {c : Completer} {item i key : String}
  {items : List String}

/-- No bucket is empty. -/
def Trim (buckets : NameMap NameSet) : Prop :=
  ∀ (key : String) (b : NameSet), buckets[key]? = some b → ∃ i, i ∈ b

lemma getD_of_getElem? {b : NameSet} (hb : buckets[key]? = some b) : buckets.getD key ∅ = b := by
  rw [ExtTreeMap.getD_eq_getD_getElem?, hb, Option.getD_some]

/-- Without empty buckets there is one just for the keys that have an item. -/
lemma getElem?_eq_some_iff_of_trim (ht : Trim buckets) {b : NameSet} :
    buckets[key]? = some b ↔ buckets.getD key ∅ = b ∧ ∃ i, i ∈ b := by
  constructor
  · intro hb
    exact ⟨getD_of_getElem? hb, ht key b hb⟩
  · rintro ⟨rfl, i, hi⟩
    cases hb : buckets[key]? with
    | none => simp [ExtTreeMap.getD_eq_getD_getElem?, hb] at hi
    | some b => rw [getD_of_getElem? hb]

/-- Buckets none of which is empty are told by what stands in them. -/
theorem buckets_ext (ht : Trim buckets) (ht' : Trim buckets')
    (h : ∀ key i, i ∈ buckets.getD key ∅ ↔ i ∈ buckets'.getD key ∅) : buckets = buckets' := by
  refine ExtTreeMap.ext_getElem? fun key => Option.ext fun b => ?_
  rw [getElem?_eq_some_iff_of_trim ht, getElem?_eq_some_iff_of_trim ht',
    ExtTreeSet.ext_mem fun i => h key i]

lemma mem_addAt {k : String} :
    i ∈ (addAt item buckets key).getD k ∅ ↔ (key = k ∧ i = item) ∨ i ∈ buckets.getD k ∅ := by
  have hmember : addAt item buckets key = Store.addMember buckets (some key) item := rfl
  rw [hmember, mem_addMember, Option.some.injEq]

lemma trim_addAt (ht : Trim buckets) : Trim (addAt item buckets key) := by
  intro k b hb
  by_cases hk : key = k
  · exact ⟨item, getD_of_getElem? hb ▸ mem_addAt.mpr (.inl ⟨hk, rfl⟩)⟩
  · rw [addAt, ExtTreeMap.getElem?_alter, if_neg (by simpa using hk)] at hb
    exact ht k b hb

lemma mem_foldl_addAt {ks : List String} :
    i ∈ (ks.foldl (addAt item) buckets).getD key ∅ ↔
      (key ∈ ks ∧ i = item) ∨ i ∈ buckets.getD key ∅ := by
  induction ks generalizing buckets with
  | nil => simp
  | cons k ks ih =>
    rw [List.foldl_cons, ih, mem_addAt, List.mem_cons, or_and_right, eq_comm (a := k),
      or_left_comm, or_assoc]

/-- An item is kept under each of its keys. -/
lemma mem_add : i ∈ (c.add item).buckets.getD key ∅ ↔
    (key ∈ keys c.maxLen item ∧ i = item) ∨ i ∈ c.buckets.getD key ∅ :=
  mem_foldl_addAt

lemma trim_add (ht : Trim c.buckets) : Trim (c.add item).buckets :=
  List.foldlRecOn _ _ ht fun _ ht _ _ => trim_addAt ht

/-- What a completer has after the items of a list were added. -/
lemma foldl_add (ht : Trim c.buckets) :
    (items.foldl add c).maxLen = c.maxLen ∧ Trim (items.foldl add c).buckets ∧
      ∀ key i, i ∈ (items.foldl add c).buckets.getD key ∅ ↔
        (i ∈ items ∧ key ∈ keys c.maxLen i) ∨ i ∈ c.buckets.getD key ∅ := by
  induction items generalizing c with
  | nil => exact ⟨rfl, ht, by simp⟩
  | cons item items ih =>
    obtain ⟨hmax, htrim, hmem⟩ := ih (trim_add ht)
    refine ⟨hmax, htrim, fun key i => ?_⟩
    rw [List.foldl_cons, hmem, mem_add, List.mem_cons]
    constructor
    · rintro (⟨hi, hkey⟩ | ⟨hkey, rfl⟩ | hi)
      · exact .inl ⟨.inr hi, hkey⟩
      · exact .inl ⟨.inl rfl, hkey⟩
      · exact .inr hi
    · rintro (⟨rfl | hi, hkey⟩ | hi)
      · exact .inr (.inl ⟨hkey, rfl⟩)
      · exact .inl ⟨hi, hkey⟩
      · exact .inr (.inr hi)

lemma trim_empty : Trim empty.buckets := by
  intro key b hb
  simp [empty, withMaxLen] at hb

lemma ofList_maxLen : (ofList items).maxLen = defaultMaxLen := (foldl_add trim_empty).1

lemma trim_ofList : Trim (ofList items).buckets := (foldl_add trim_empty).2.1

/-- Under a key stand the items of the list that have it. -/
theorem mem_ofList_buckets :
    i ∈ (ofList items).buckets.getD key ∅ ↔ i ∈ items ∧ key ∈ keys defaultMaxLen i := by
  have hnone : ¬ i ∈ empty.buckets.getD key ∅ := by simp [empty, withMaxLen]
  rw [ofList, (foldl_add trim_empty).2.2, or_iff_left hnone]
  rfl

/-- Lists with the same items fill the same completer. -/
theorem ofList_congr {items' : List String} (h : ∀ i, i ∈ items ↔ i ∈ items') :
    ofList items = ofList items' := by
  have hbuckets : (ofList items).buckets = (ofList items').buckets :=
    buckets_ext trim_ofList trim_ofList fun key i => by
      rw [mem_ofList_buckets, mem_ofList_buckets, h]
  have hmax : (ofList items).maxLen = (ofList items').maxLen := by
    rw [ofList_maxLen, ofList_maxLen]
  calc ofList items = ⟨(ofList items).maxLen, (ofList items).buckets⟩ := rfl
    _ = ⟨(ofList items').maxLen, (ofList items').buckets⟩ := by rw [hmax, hbuckets]

end HostFleet.Proofs
