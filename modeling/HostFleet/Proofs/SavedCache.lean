import HostFleet.Inventory.Loader
import HostFleet.Proofs.EntityCodec
import HostFleet.Proofs.InstantText
import HostFleet.Proofs.JsonText
import HostFleet.Proofs.SelectorReading
import HostFleet.Proofs.SelectionMeaning
import HostFleet.Proofs.StoreAnswers

/-!
# Loading what was saved

An inventory that is loaded from a saved cache has the store that is rebuilt from the saved one.
It answers as the one that was saved if the fetched snapshot is settled.
-/

namespace HostFleet.Proofs
open Std Document

/-! ### Cached snapshots as text -/

lemma plain_ofOption (o : Option String) : Plain (ofOption o) := by
  cases o with
  | none => exact .null
  | some s => exact .text s

lemma plain_map {α : Type} {write : α → Document} (h : ∀ x, Plain (write x)) (xs : List α) :
    Plain (.list (xs.map write)) := by
  refine .list fun d hd => ?_
  obtain ⟨x, -, rfl⟩ := List.mem_map.mp hd
  exact h x

lemma plain_ofTexts (xs : List String) : Plain (ofTexts xs) := plain_map Plain.text xs

lemma plain_datacenter (d : Datacenter) : Plain d.toDocument := by
  refine .record ?_
  simp [Plain.text, plain_ofOption, plain_ofTexts]

lemma plain_project (p : Project) : Plain p.toDocument := by
  refine .record ?_
  simp [Plain.text, plain_ofOption]

lemma plain_hostGroup (g : HostGroup) : Plain g.toDocument := by
  refine .record ?_
  simp [Plain.text, plain_ofOption, plain_ofTexts]

lemma plain_customField (c : CustomField) : Plain c.toDocument := by
  refine .record ?_
  simp [Plain.text]

lemma plain_host (h : Host) : Plain h.toDocument := by
  refine .record ?_
  simp [Plain.text, plain_ofOption, plain_ofTexts, plain_map plain_customField]

lemma plain_snapshot (s : Snapshot) : Plain s.toDocument := by
  refine .record ?_
  simp [plain_map plain_datacenter, plain_map plain_project, plain_map plain_hostGroup,
    plain_map plain_host]

/-- A value with its time is read as the document that was written. -/
lemma read?_stamped {α : Type} {write : α → Document} {v : Stamped α} (h : Plain (write v.data)) :
    Json.read? (Json.encode (v.toDocument write)) = some (v.toDocument write) := by
  refine read?_encode (.record ?_)
  simp [Plain.text, h]

/-- What is written into the data file when the inventory is saved. -/
def savedData (i : Inventory) (time : Instant) : Bytes :=
  Json.encode (Stamped.toDocument Snapshot.toDocument ⟨time, i.store.toSnapshot⟩)

lemma saveSteps_eq (i : Inventory) (time : Instant) : i.saveSteps time =
    CacheFiles.saveSteps i.files.data (savedData i time) ++
      CacheFiles.saveSteps i.files.index
        (Json.encode (Stamped.toDocument Index.toDocument ⟨time, i.index⟩)) := rfl

/-- A saved data file is decoded as what was saved. -/
theorem decode_savedData (i : Inventory) {time : Instant} (htime : OnCalendar time)
    (path : String) :
    CacheFiles.decode Snapshot.ofDocument? path (.ok (savedData i time)) =
      .ok ⟨time, i.store.toSnapshot⟩ := by
  rw [CacheFiles.decode, savedData, read?_stamped (plain_snapshot _), Option.bind_some,
    stamped_ofDocument? (parse?_format htime) (snapshot_ofDocument? _)]

/-! ### Loading -/

lemma installCached_store (i : Inventory) (snapshot : Stamped Snapshot)
    (index : Except InventoryError (Stamped Index)) :
    (i.installCached snapshot index).store = .ofSnapshot snapshot.data := by
  cases index with
  | error e => rfl
  | ok index =>
    simp only [Inventory.installCached]
    split <;> rfl

lemma installCached_settings (i : Inventory) (snapshot : Stamped Snapshot)
    (index : Except InventoryError (Stamped Index)) :
    (i.installCached snapshot index).settings = i.settings := by
  cases index with
  | error e => rfl
  | ok index =>
    simp only [Inventory.installCached]
    split <;> rfl

/-- A saved cache that is young enough, or may be stale, is loaded as the store rebuilt from the
saved one. -/
theorem load_savedData (i j : Inventory) {time now : Instant} (htime : OnCalendar time)
    {read : FileReader} (hread : read j.files.data = .ok (savedData i time)) {allowStale : Bool}
    (hage : allowStale = true ∨ time.secondsBetween now ≤ j.settings.cacheTtl) :
    ∃ k, j.load read allowStale now = .ok k ∧ k.store = .ofSnapshot i.store.toSnapshot := by
  have hfresh : (!allowStale && Stamped.isExpired (⟨time, i.store.toSnapshot⟩ : Stamped Snapshot)
      j.settings.cacheTtl now) = false := by
    rcases hage with rfl | hage
    · rfl
    · rw [Stamped.isExpired, Stamped.age, decide_eq_false (Int.not_lt.mpr hage), Bool.and_false]
  have hload : j.load read allowStale now = .ok (j.installCached ⟨time, i.store.toSnapshot⟩
      (CacheFiles.decode Index.ofDocument? j.files.index (read j.files.index))) := by
    rw [Inventory.load, hread, decode_savedData i htime]
    simp only [bind, Except.bind, hfresh, Bool.false_eq_true, if_false]
  exact ⟨_, hload, installCached_store j ⟨time, i.store.toSnapshot⟩ _⟩

/-- A fetch that the service answers installs what it delivered. -/
lemma fetch_store {i : Inventory} {read : FileReader} {reply : ServiceReply} {s : Snapshot}
    (hreply : reply.snapshot = .ok s) (now : Instant) :
    (i.fetch read reply now).inventory.store = .ofSnapshot s := by
  rw [Inventory.fetch, hreply]
  rfl

/-- A reply that delivers a snapshot. -/
def replyOf (s : Snapshot) : ServiceReply :=
  .answered 200 (Json.encode (.record [("data", s.toDocument)])) true

/-- Every snapshot can be delivered. -/
lemma replyOf_snapshot (s : Snapshot) : (replyOf s).snapshot = .ok s := by
  have hplain : Plain (.record [("data", s.toDocument)]) := by
    refine .record ?_
    simp [plain_snapshot]
  have hread : Snapshot.ofReply? (.record [("data", s.toDocument)]) = some s := by
    rw [Snapshot.ofReply?, fields?, Option.bind_eq_bind, Option.bind_some, required_named rfl,
      snapshot_ofDocument?]
  rw [replyOf, ServiceReply.snapshot, read?_encode hplain, Option.bind_some, hread]
  rfl

/-! ### One run after another -/

/-- A new inventory that fetched `s`. -/
def fetched (s : Snapshot) : Inventory :=
  ((Inventory.new default).fetch (fun _ => .error .notFound) (replyOf s) default).inventory

/-- Reads what was saved of that inventory. -/
def savedFile (s : Snapshot) : FileReader := fun _ => .ok (savedData (fetched s) default)

lemma fetched_store (s : Snapshot) : (fetched s).store = .ofSnapshot s :=
  fetch_store (replyOf_snapshot s) default

lemma onCalendar_default : OnCalendar default := ⟨by decide, by decide⟩

lemma load_savedFile (s : Snapshot) : ∃ k,
    (Inventory.new default).load (savedFile s) true default = .ok k ∧ k.store = exported s := by
  have hread : savedFile s (Inventory.new default).files.data =
      .ok (savedData (fetched s) default) := rfl
  obtain ⟨k, hk, hstore⟩ := load_savedData _ _ onCalendar_default hread (.inl rfl)
  rw [fetched_store, ← exported] at hstore
  exact ⟨k, hk, hstore⟩

/-- Two groups of one name, given in this order, with a host each. -/
def twins (first second : String) : Snapshot :=
  { groups := [⟨first, "web", none, none, [], [], []⟩, ⟨second, "web", none, none, [], [], []⟩]
    hosts :=
      [⟨"7", "a.x", none, some "1", none, none, [], []⟩,
       ⟨"8", "b.x", none, some "2", none, none, [], []⟩] }

lemma settled_twins : Settled (twins "1" "2") := by
  have hd : DistinctIds (twins "1" "2") := by
    constructor <;> decide
  refine ⟨nofun, ?_, namesSettled_of_nodup hd.hosts (by decide), nofun,
    fun _ _ => ownerSettled_of_nodup hd.hosts _⟩
  intro g hg
  have hmem := mem_of_lastAt hg
  simp only [twins, List.mem_cons, List.not_mem_nil, or_false] at hmem
  rcases hmem with rfl | rfl
  · exact absurd hg (by decide)
  · refine ⟨by decide, fun g' hg' _ => ?_⟩
    have hmem' := mem_of_lastAt hg'
    simp only [twins, List.mem_cons, List.not_mem_nil, or_false] at hmem'
    rcases hmem' with rfl | rfl <;> decide

/-- A host that is listed twice, in one group and then in another. -/
def moved : Snapshot :=
  { groups := [⟨"1", "one", none, none, [], [], []⟩, ⟨"2", "two", none, none, [], [], []⟩]
    hosts :=
      [⟨"7", "a.x", none, some "1", none, none, [], []⟩,
       ⟨"7", "a.x", none, some "2", none, none, [], []⟩] }

/-! ### Answers -/

/-- An inventory that is loaded from a saved cache looks up the same entities as the fetched one
just when the snapshot that was fetched is settled, and then it selects and describes hosts as the
fetched one does. -/
theorem load_answers_as_fetched {i j : Inventory} {read read' : FileReader} {reply : ServiceReply}
    {s : Snapshot} (hreply : reply.snapshot = .ok s) {asked time now : Instant}
    (htime : OnCalendar time)
    (hread : read' j.files.data = .ok (savedData (i.fetch read reply asked).inventory time))
    {allowStale : Bool} (hage : allowStale = true ∨ time.secondsBetween now ≤ j.settings.cacheTtl) :
    ∃ k, j.load read' allowStale now = .ok k ∧
      (Agree k.store (i.fetch read reply asked).inventory.store ↔ Settled s) ∧
      (Settled s →
        (∀ expr, k.store.resolve expr = (i.fetch read reply asked).inventory.store.resolve expr) ∧
        ∀ f, k.store.describe f = (i.fetch read reply asked).inventory.store.describe f) := by
  obtain ⟨k, hk, hstore⟩ := load_savedData _ j htime hread hage
  have hfetch : (i.fetch read reply asked).inventory.store = .ofSnapshot s :=
    fetch_store hreply asked
  have hagree := agree_exported_iff (s := s)
  rw [exported, ← hfetch, ← hstore] at hagree
  refine ⟨k, hk, hagree, fun hs => ?_⟩
  exact ⟨(hagree.mpr hs).resolve, (hagree.mpr hs).describe⟩

/-- A name that is given twice is no harm as long as the last group with it has the greatest id. -/
theorem load_answers_as_fetched_of_twins : ∃ k,
    (Inventory.new default).load (savedFile (twins "1" "2")) true default = .ok k ∧
      k.store.resolve "%web" = (fetched (twins "1" "2")).store.resolve "%web" := by
  -- For any snapshot at first: of a given one the reply would be computed.
  have hload : ∀ s, Settled s → ∃ k,
      (Inventory.new default).load (savedFile s) true default = .ok k ∧
        k.store.resolve "%web" = (fetched s).store.resolve "%web" := by
    intro s hs
    have hread : savedFile s (Inventory.new default).files.data =
        .ok (savedData (fetched s) default) := rfl
    obtain ⟨k, hk, -, hanswers⟩ :=
      load_answers_as_fetched (replyOf_snapshot s) onCalendar_default hread (.inl rfl)
    exact ⟨k, hk, (hanswers hs).1 "%web"⟩
  exact hload _ settled_twins

/-- What is loaded may select other hosts: of two groups with one name the later one is found at
first and then the one with the greater id, and a host that is listed in two groups stays in the
later one alone. -/
theorem load_selects_otherwise :
    (∃ k, (Inventory.new default).load (savedFile (twins "2" "1")) true default = .ok k ∧
      k.store.resolve "%web" ≠ (fetched (twins "2" "1")).store.resolve "%web") ∧
    ∃ k, (Inventory.new default).load (savedFile moved) true default = .ok k ∧
      k.store.resolve "%one" ≠ (fetched moved).store.resolve "%one" := by
  obtain ⟨k, hk, hstore⟩ := load_savedFile (twins "2" "1")
  obtain ⟨k', hk', hstore'⟩ := load_savedFile moved
  refine ⟨⟨k, hk, ?_⟩, k', hk', ?_⟩
  · have hfirst : (Store.ofSnapshot (twins "2" "1")).resolve "%web" = .ok {"a.x"} := by cbv
    have hthen : (exported (twins "2" "1")).resolve "%web" = .ok {"b.x"} := by cbv
    rw [hstore, hthen, fetched_store, hfirst]
    intro heq
    have hmem : "b.x" ∈ ({"a.x"} : NameSet) := by
      rw [← Except.ok.inj heq]
      simp
    exact absurd hmem (by simp)
  · have hfirst : (Store.ofSnapshot moved).resolve "%one" = .ok {"a.x"} := by cbv
    have hthen : (exported moved).resolve "%one" = .ok ∅ := by cbv
    rw [hstore', hthen, fetched_store, hfirst]
    intro heq
    have hmem : "a.x" ∈ (∅ : NameSet) := by
      rw [Except.ok.inj heq]
      simp
    exact ExtTreeSet.not_mem_empty hmem

end HostFleet.Proofs
