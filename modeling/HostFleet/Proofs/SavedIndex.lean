import HostFleet.Proofs.CompletionBuckets
import HostFleet.Proofs.SavedCache

/-!
# Saved completion indices

An index is read back from its cache file as it was saved. A file with an index is not read as a
snapshot and a file with a snapshot not as an index, whatever they hold. A store that is rebuilt
from its export has the index that it had before.
-/

namespace HostFleet.Proofs
open Std Document Completer

/-! ### Completers -/

/-- The limit of the keys is small enough to be read back. -/
def Storable (c : Completer) : Prop := c.maxLen < Nat.pow 2 64

lemma storable_ofList (items : List String) : Storable (ofList items) := by
  rw [Storable, ofList_maxLen]
  decide

lemma bucketsOf?_toDocument (buckets : NameMap NameSet) :
    bucketsOf? (.record (buckets.toList.map fun (key, bucket) =>
      (key, .list (bucket.toList.map .text)))) = some buckets := by
  rw [bucketsOf?, mapM_map_some]
  · exact congrArg some (ofList_toList buckets)
  · rintro ⟨key, bucket⟩
    have htext : ∀ s, text? (.text s) = some s := fun _ => rfl
    have hitems := mapM_map_some htext bucket.toList
    simp only [listOf?, hitems, Option.bind_eq_bind, Option.bind_some, set_ofList_toList]

/-- A completer is read back from its document. -/
theorem completer_ofDocument? {c : Completer} (h : Storable c) :
    Completer.ofDocument? c.toDocument = some c := by
  have hmax : natBelow? (Nat.pow 2 64) (.int c.maxLen) = some c.maxLen := by
    rw [natBelow?, if_pos (by simpa [Storable] using h), Int.toNat_natCast]
  rw [Completer.ofDocument?, Completer.toDocument, fields?, Option.bind_eq_bind, Option.bind_some,
    required_named rfl, required_named rfl, hmax, bucketsOf?_toDocument]
  rfl

lemma plain_completer (c : Completer) : Plain c.toDocument := by
  refine .record ?_
  simp only [List.mem_cons, List.not_mem_nil, or_false, forall_eq_or_imp, forall_eq]
  refine ⟨.count c.maxLen, .record fun m hm => ?_⟩
  obtain ⟨⟨key, bucket⟩, -, rfl⟩ := List.mem_map.mp hm
  exact plain_map Plain.text bucket.toList

/-! ### Indices -/

lemma plain_index (i : Index) : Plain i.toDocument := by
  refine .record ?_
  simp [plain_completer]

/-- An index is read back from its document. -/
theorem index_ofDocument? {i : Index} (h : ∀ domain, Storable (i.completer domain)) :
    Index.ofDocument? i.toDocument = some i := by
  have hread : ∀ domain, Completer.ofDocument? (i.completer domain).toDocument =
      some (i.completer domain) := fun domain => completer_ofDocument? (h domain)
  have hhosts := hread .hosts
  have hgroups := hread .groups
  have hprojects := hread .projects
  have hdatacenters := hread .datacenters
  have htags := hread .tags
  have hkeys := hread .fieldKeys
  have hvalues := hread .fieldValues
  simp only [Index.completer] at hhosts hgroups hprojects hdatacenters htags hkeys hvalues
  rw [Index.ofDocument?, Index.toDocument, fields?, Option.bind_eq_bind, Option.bind_some,
    required_named rfl, required_named rfl, required_named rfl, required_named rfl,
    required_named rfl, required_named rfl, required_named rfl, hhosts, hgroups, hprojects,
    hdatacenters, htags, hkeys, hvalues]
  rfl

lemma storable_ofStore (s : Store) (domain : Domain) :
    Storable ((Index.ofStore s).completer domain) := by
  cases domain <;> exact storable_ofList _

/-- No index is taken for a snapshot: its completers are no lists. -/
lemma snapshot_ofDocument?_index (i : Index) : Snapshot.ofDocument? i.toDocument = none := by
  have hlist : (Fields.named [("hosts", i.hosts.toDocument), ("groups", i.groups.toDocument),
      ("projects", i.projects.toDocument), ("datacenters", i.datacenters.toDocument),
      ("tags", i.tags.toDocument), ("field_keys", i.fieldKeys.toDocument),
      ("field_values", i.fieldValues.toDocument)]).optionalList 0 ["datacenters"]
        Datacenter.ofDocument? = none := by
    rw [Fields.optionalList, optional_named rfl]
    rfl
  rw [Snapshot.ofDocument?, Index.toDocument, fields?, Option.bind_eq_bind, Option.bind_some, hlist]
  rfl

/-- A list of records is no completer: its limit would be a record. -/
lemma completer_ofDocument?_list {α : Type} {write : α → Document}
    (h : ∀ x, ∃ members, write x = .record members) (xs : List α) :
    Completer.ofDocument? (.list (xs.map write)) = none := by
  rw [Completer.ofDocument?, fields?]
  split
  · cases xs with
    | nil => rfl
    | cons x xs =>
      obtain ⟨members, hx⟩ := h x
      rw [List.map_cons, hx]
      rfl
  · rfl

/-- No snapshot is taken for an index. -/
lemma index_ofDocument?_snapshot (s : Snapshot) : Index.ofDocument? s.toDocument = none := by
  have hhosts : Completer.ofDocument? (.list (s.hosts.map Host.toDocument)) = none :=
    completer_ofDocument?_list (fun _ => ⟨_, rfl⟩) s.hosts
  rw [Index.ofDocument?, Snapshot.toDocument, fields?, Option.bind_eq_bind, Option.bind_some,
    required_named rfl, hhosts]
  rfl

/-! ### Index files -/

/-- What is written into the index file when the inventory is saved. -/
def savedIndex (i : Inventory) (time : Instant) : Bytes :=
  Json.encode (Stamped.toDocument Index.toDocument ⟨time, i.index⟩)

variable {path : String} {time : Instant}

theorem decode_savedIndex {i : Inventory} (h : ∀ domain, Storable (i.index.completer domain))
    (htime : OnCalendar time) :
    CacheFiles.decode Index.ofDocument? path (.ok (savedIndex i time)) = .ok ⟨time, i.index⟩ := by
  rw [CacheFiles.decode, savedIndex, read?_stamped (plain_index _), Option.bind_some,
    stamped_ofDocument? (parse?_format htime) (index_ofDocument? h)]

lemma decode_savedIndex_ne (i : Inventory) (v : Stamped Snapshot) :
    CacheFiles.decode Snapshot.ofDocument? path (.ok (savedIndex i time)) ≠ .ok v := by
  rw [CacheFiles.decode, savedIndex, read?_stamped (plain_index _), Option.bind_some,
    stamped_ofDocument?_eq_none (snapshot_ofDocument?_index _)]
  intro hok
  cases hok

lemma decode_savedData_ne (i : Inventory) (v : Stamped Index) :
    CacheFiles.decode Index.ofDocument? path (.ok (savedData i time)) ≠ .ok v := by
  rw [CacheFiles.decode, savedData, read?_stamped (plain_snapshot _), Option.bind_some,
    stamped_ofDocument?_eq_none (index_ofDocument?_snapshot _)]
  intro hok
  cases hok

/-! ### Rebuilt stores -/

lemma catalogOf_all_all {α : Type} {id name : α → String} {xs : List α} :
    (catalogOf id name (catalogOf id name xs).all).all = (catalogOf id name xs).all :=
  congrArg ExtTreeMap.values catalogOf_all_byId

/-- A store that is rebuilt from its export has the same names, in the same order. -/
lemma names_exported (s : Snapshot) : (exported s).names = (Store.ofSnapshot s).names := by
  funext domain
  cases domain <;>
    simp [Store.names, exported, Store.toSnapshot, catalogOf_all_all]

theorem ofStore_exported (s : Snapshot) :
    Index.ofStore (exported s) = Index.ofStore (.ofSnapshot s) := by
  rw [Index.ofStore, names_exported, Index.ofStore]

end HostFleet.Proofs
