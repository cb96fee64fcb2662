import HostFleet.Proofs.CompleterItems

/-!
# Completion and look-up

The completers of an index and the catalogs of its store are filled from the same entities, the
completers from all that have an id in the end and the catalogs from one after the other. With
distinct ids both have the same names, however often a name is given: what can be completed is found,
and what is found can be completed.
-/

namespace HostFleet.Proofs
open Std Completer

variable {α : Type}

/-! ### What an index completes -/

lemma filledWith_ofList (items : List String) : FilledWith (· ∈ items) (ofList items) where
  maxLen_pos := by rw [ofList_maxLen]; decide
  trim := trim_ofList
  mem_iff := by
    intro key item
    rw [mem_ofList_buckets, ofList_maxLen]

/-- An index completes a text to the names of the kind that begin with it. -/
theorem mem_complete_ofStore (store : Store) (domain : Domain) {start name : String} :
    name ∈ (Index.ofStore store).complete domain start ↔
      name ≠ "" ∧ name ∈ store.names domain ∧ start.toList <+: name.toList := by
  have hfilled := filledWith_ofList (store.names domain)
  cases domain <;> exact hfilled.mem_complete

/-- A name that is not empty is completed from each of its beginnings or from none. -/
lemma mem_complete_ofStore_iff_mem {store : Store} (domain : Domain) {start name : String}
    (hne : name ≠ "") (hstarts : start.toList <+: name.toList) :
    name ∈ (Index.ofStore store).complete domain start ↔ name ∈ store.names domain := by
  rw [mem_complete_ofStore, and_iff_right hne, and_iff_left hstarts]

/-! ### What a catalog finds -/

/-- With distinct ids just the names of the listed entities are found. -/
lemma find?_isSome_iff (id name : α → String) {xs : List α} (hd : (xs.map id).Nodup) (n : String) :
    ((catalogOf id name xs).find? n).isSome = true ↔ n ∈ (catalogOf id name xs).all.map name := by
  rw [catalogOf_find?_of_nodup hd, List.mem_map]
  simp only [mem_catalogOf_all hd]
  constructor
  · intro hsome
    obtain ⟨x, hx⟩ := Option.isSome_iff_exists.mp hsome
    exact ⟨x, mem_of_lastAt hx, key_of_lastAt hx⟩
  · rintro ⟨x, hx, rfl⟩
    obtain ⟨y, hy⟩ := exists_lastAt name hx
    exact Option.isSome_iff_exists.mpr ⟨y, hy⟩

/-- The completer completes a text to the names that begin with it and are found. -/
def CompletesFound (completer : Completer) (catalog : Catalog α) : Prop :=
  ∀ start name, name ∈ completer.complete start ↔
    name ≠ "" ∧ start.toList <+: name.toList ∧ (catalog.find? name).isSome = true

/-- What the index completes is what the store looks up: the names of all kinds, and the keys and
values of the fields that its hosts carry. -/
structure CompletesLookups (index : Index) (store : Store) : Prop where
  hosts : CompletesFound index.hosts store.hosts
  groups : CompletesFound index.groups store.groups
  projects : CompletesFound index.projects store.projects
  datacenters : CompletesFound index.datacenters store.datacenters
  fieldKeys : ∀ key start, start.toList <+: (key ++ "=").toList →
    (key ++ "=" ∈ index.fieldKeys.complete start ↔
      ∃ h ∈ store.hosts.all, ∃ f ∈ h.customFields, f.key = key)
  fieldValues : ∀ value start, value ≠ "" → start.toList <+: value.toList →
    (value ∈ index.fieldValues.complete start ↔
      ∃ h ∈ store.hosts.all, ∃ f ∈ h.customFields, f.value = value)

/-- A kind of names that are those of a catalog with distinct ids is completed as the catalog
finds them. -/
lemma completesFound_of_names {store : Store} {id name : α → String} {xs : List α}
    {catalog : Catalog α} (domain : Domain) (hcatalog : catalog = catalogOf id name xs)
    (hnames : store.names domain = catalog.all.map name) (hd : (xs.map id).Nodup) :
    CompletesFound ((Index.ofStore store).completer domain) catalog := by
  intro start n
  have hcomplete : n ∈ (Index.ofStore store).complete domain start ↔ _ :=
    mem_complete_ofStore store domain
  have hfound : (catalog.find? n).isSome = true ↔ n ∈ catalog.all.map name := by
    rw [hcatalog]
    exact find?_isSome_iff id name hd n
  rw [hnames, ← hfound, and_comm (b := start.toList <+: n.toList)] at hcomplete
  exact hcomplete

lemma mem_fieldKeys_iff (store : Store) (key : String) : key ++ "=" ∈ store.names .fieldKeys ↔
    ∃ h ∈ store.hosts.all, ∃ f ∈ h.customFields, f.key = key := by
  simp only [Store.names, List.mem_flatMap, List.mem_map, String.append_left_inj]

lemma mem_fieldValues_iff (store : Store) (value : String) : value ∈ store.names .fieldValues ↔
    ∃ h ∈ store.hosts.all, ∃ f ∈ h.customFields, f.value = value := by
  simp only [Store.names, List.mem_flatMap, List.mem_map]

/-- The index of an inventory with distinct ids completes just what its store looks up. -/
theorem completesLookups_ofSnapshot (s : Snapshot) (hd : DistinctIds s) :
    CompletesLookups (.ofStore (.ofSnapshot s)) (.ofSnapshot s) where
  hosts := completesFound_of_names .hosts (ofSnapshot_hosts s) rfl hd.hosts
  groups := completesFound_of_names .groups (ofSnapshot_groups s) rfl hd.groups
  projects := completesFound_of_names .projects (ofSnapshot_projects s) rfl hd.projects
  datacenters := completesFound_of_names .datacenters (ofSnapshot_datacenters s) rfl hd.datacenters
  fieldKeys := by
    intro key start hstarts
    have hne : key ++ "=" ≠ "" := by simp
    rw [← mem_fieldKeys_iff]
    exact mem_complete_ofStore_iff_mem .fieldKeys hne hstarts
  fieldValues := by
    intro value start hne hstarts
    rw [← mem_fieldValues_iff]
    exact mem_complete_ofStore_iff_mem .fieldValues hne hstarts

/-- Two hosts with one name, and a third whose name differs behind the tenth character only. -/
def namesakeSnapshot : Snapshot :=
  { hosts := [⟨"1", "webserver01.x", none, none, none, none, [], [⟨"role", "web"⟩]⟩,
      ⟨"2", "webserver01.x", none, none, none, none, [], []⟩,
      ⟨"3", "webserver02.x", none, none, none, none, [], []⟩] }

/-- The bucket of the first ten characters has both names. -/
theorem completesLookups_of_namesakes : DistinctIds namesakeSnapshot ∧
    let store := Store.ofSnapshot namesakeSnapshot
    "webserver01.x" ∈ (Index.ofStore store).hosts.complete "webserver01" ∧
    "webserver02.x" ∉ (Index.ofStore store).hosts.complete "webserver01" ∧
    "role=" ∈ (Index.ofStore store).fieldKeys.complete "ro" ∧
    "db" ∉ (Index.ofStore store).fieldValues.complete "" := by
  have hd : DistinctIds namesakeSnapshot := by
    constructor <;> decide
  have h := completesLookups_ofSnapshot namesakeSnapshot hd
  have hhosts : (Store.ofSnapshot namesakeSnapshot).hosts.all = namesakeSnapshot.hosts := by cbv
  refine ⟨hd, ?_, ?_, ?_, ?_⟩
  · exact (h.hosts _ _).mpr ⟨by decide, by decide, by cbv⟩
  · intro hmem
    have hstarts := ((h.hosts _ _).mp hmem).2.1
    exact absurd hstarts (by decide)
  · refine (h.fieldKeys "role" "ro" (by decide)).mpr ?_
    rw [hhosts]
    exact ⟨_, List.mem_cons_self, ⟨"role", "web"⟩, List.mem_cons_self, rfl⟩
  · rw [h.fieldValues "db" "" (by decide) (by decide), hhosts]
    decide

end HostFleet.Proofs
