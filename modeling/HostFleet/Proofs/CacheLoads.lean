import HostFleet.Proofs.FetchOutcomes

/-!
# Loads of the cache

Whether a load succeeds and which store it installs is decided by the data file, the clock and the
settings. The index file is taken where it belongs to the data and is passed over where it does not:
it can neither make a load fail nor bring another store in. A load that fails leaves the inventory
as it was, and no load changes a file.
-/

namespace HostFleet.Proofs

/-- What a load answers, and the inventory that it leaves. -/
def attempt (i : Inventory) (read : FileReader) (allowStale : Bool) (now : Instant) :
    Except InventoryError Unit × Inventory :=
  match i.load read allowStale now with
  | .ok j => (.ok (), j)
  | .error e => (.error e, i)

/-- The file for data is there, but it cannot be read or holds no snapshot. -/
def Unusable (files : CacheFiles) (read : FileReader) : Prop :=
  (∃ e, e ≠ OsError.notFound ∧ read files.data = .error e) ∨
    ∃ content, read files.data = .ok content ∧
      (Json.read? content).bind (Stamped.ofDocument? Snapshot.ofDocument?) = none

/-- The file for the index can be read and holds an index, of whatever time. -/
def CachedIndex (files : CacheFiles) (read : FileReader) (v : Stamped Index) : Prop :=
  ∃ content, read files.index = .ok content ∧
    (Json.read? content).bind (Stamped.ofDocument? Index.ofDocument?) = some v

/-- The ways for a load to end, with what is left of the inventory. -/
inductive LoadEnds (i : Inventory) (read : FileReader) (allowStale : Bool) (now : Instant) :
    Except InventoryError Unit × Inventory → Prop where
  | missing (h : read i.files.data = .error .notFound) :
    LoadEnds i read allowStale now (.error (.cacheMissing i.files.data), i)
  | unusable (fault : CacheFault) (h : Unusable i.files read) :
    LoadEnds i read allowStale now (.error (.cacheUnusable fault), i)
  | expired {v : Stamped Snapshot} (h : Cached i.files read v) (hstale : allowStale = false)
    (hage : (i.settings.cacheTtl : ℤ) < v.age now) :
    LoadEnds i read allowStale now (.error (.cacheExpired (v.age now) i.settings.cacheTtl), i)
  | good {v : Stamped Snapshot} (h : Cached i.files read v)
    (hgood : allowStale = true ∨ v.age now ≤ i.settings.cacheTtl) :
    LoadEnds i read allowStale now (.ok (), i.installCached v
      (CacheFiles.decode Index.ofDocument? i.files.index (read i.files.index)))

section Load

variable {i : Inventory} {read read' : FileReader} {allowStale : Bool} {now : Instant}
  {v : Stamped Snapshot} {w : Stamped Index}

/-! ### What the data file holds -/

/-- What stands in the index file leaves it open what the data file holds. -/
lemma index_ne_data (i : Inventory) : i.files.index ≠ i.files.data := by
  obtain ⟨front, -, hjoin⟩ := exists_join_eq i.settings.cacheDir
  rw [Inventory.files, cacheFiles_of, hjoin _ (isAbsolute_cacheName _).1,
    hjoin _ (isAbsolute_cacheName _).2]
  intro heq
  have hnames := congrArg String.toList heq
  simp [cacheName] at hnames

/-- There is no data file, or it is of no use, or it holds a snapshot. -/
lemma dataFile_cases (files : CacheFiles) (read : FileReader) :
    read files.data = .error .notFound ∨ Unusable files read ∨ ∃ v, Cached files read v := by
  cases hread : read files.data with
  | error e =>
    by_cases he : e = .notFound
    · exact .inl (by rw [he])
    · exact .inr (.inl (.inl ⟨e, he, hread⟩))
  | ok content =>
    cases hdata : (Json.read? content).bind (Stamped.ofDocument? Snapshot.ofDocument?) with
    | none => exact .inr (.inl (.inr ⟨content, hread, hdata⟩))
    | some v => exact .inr (.inr ⟨v, content, hread, hdata⟩)

lemma cached_unique {v' : Stamped Snapshot} (h : Cached i.files read v)
    (h' : Cached i.files read v') : v = v' := by
  have hdecode : CacheFiles.decode Snapshot.ofDocument? i.files.data (read i.files.data) = .ok v :=
    decode_eq_ok_iff.mpr h
  rw [decode_eq_ok_iff.mpr h'] at hdecode
  exact (Except.ok.inj hdecode).symm

lemma decode_of_unusable (h : Unusable i.files read) : ∃ fault,
    CacheFiles.decode Snapshot.ofDocument? i.files.data (read i.files.data) =
      .error (.cacheUnusable fault) := by
  rcases h with ⟨e, he, hread⟩ | ⟨content, hread, hdata⟩
  · refine ⟨.reading i.files.data e, ?_⟩
    rw [hread, CacheFiles.decode]
    exact he
  · refine ⟨.decoding i.files.data "not a cached value", ?_⟩
    rw [hread, CacheFiles.decode, hdata]

/-! ### How a load ends -/

lemma attempt_of_decode_eq_error {e : InventoryError}
    (h : CacheFiles.decode Snapshot.ofDocument? i.files.data (read i.files.data) = .error e) :
    attempt i read allowStale now = (.error e, i) := by
  rw [attempt, Inventory.load, h]
  rfl

lemma attempt_of_missing (h : read i.files.data = .error .notFound) :
    attempt i read allowStale now = (.error (.cacheMissing i.files.data), i) :=
  attempt_of_decode_eq_error (by rw [h, CacheFiles.decode])

lemma attempt_of_unusable (allowStale : Bool) (now : Instant) (h : Unusable i.files read) :
    ∃ fault, attempt i read allowStale now = (.error (.cacheUnusable fault), i) := by
  obtain ⟨fault, hfault⟩ := decode_of_unusable h
  exact ⟨fault, attempt_of_decode_eq_error hfault⟩

lemma attempt_of_expired (h : Cached i.files read v) (hstale : allowStale = false)
    (hage : (i.settings.cacheTtl : ℤ) < v.age now) :
    attempt i read allowStale now =
      (.error (.cacheExpired (v.age now) i.settings.cacheTtl), i) := by
  have hexpired : v.isExpired i.settings.cacheTtl now = true := decide_eq_true hage
  rw [attempt, Inventory.load, decode_eq_ok_iff.mpr h, hstale]
  simp [bind, Except.bind, hexpired]

/-- A snapshot that is not expired, or need not be fresh, is installed. -/
lemma attempt_of_good (h : Cached i.files read v)
    (hgood : allowStale = true ∨ v.age now ≤ i.settings.cacheTtl) :
    attempt i read allowStale now = (.ok (), i.installCached v
      (CacheFiles.decode Index.ofDocument? i.files.index (read i.files.index))) := by
  have hfresh : (!allowStale && v.isExpired i.settings.cacheTtl now) = false := by
    rcases hgood with rfl | hage
    · rfl
    · rw [Stamped.isExpired, decide_eq_false (Int.not_lt.mpr hage), Bool.and_false]
  rw [attempt, Inventory.load, decode_eq_ok_iff.mpr h]
  simp [bind, Except.bind, hfresh]

theorem attempt_ends (i : Inventory) (read : FileReader) (allowStale : Bool) (now : Instant) :
    LoadEnds i read allowStale now (attempt i read allowStale now) := by
  rcases dataFile_cases i.files read with hmissing | hunusable | ⟨v, hv⟩
  · rw [attempt_of_missing hmissing]
    exact .missing hmissing
  · obtain ⟨fault, hfault⟩ := attempt_of_unusable allowStale now hunusable
    rw [hfault]
    exact .unusable fault hunusable
  · by_cases hgood : allowStale = true ∨ v.age now ≤ i.settings.cacheTtl
    · rw [attempt_of_good hv hgood]
      exact .good hv hgood
    · rw [not_or, Bool.not_eq_true, not_le] at hgood
      rw [attempt_of_expired hv hgood.1 hgood.2]
      exact .expired hv hgood.1 hgood.2

/-! ### What is installed -/

/-- A cached index is taken if it was saved together with the snapshot. -/
lemma installCached_index_eq (hw : CachedIndex i.files read w) (htime : w.time = v.time) :
    (i.installCached v (CacheFiles.decode Index.ofDocument? i.files.index
      (read i.files.index))).index = w.data := by
  rw [decode_eq_ok_iff.mpr hw, Inventory.installCached, if_pos htime]

/-- Without such an index, whatever the file is, one is made from the store. -/
lemma installCached_index_rebuilt (h : ∀ w, CachedIndex i.files read w → w.time ≠ v.time) :
    (i.installCached v (CacheFiles.decode Index.ofDocument? i.files.index
      (read i.files.index))).index = .ofStore (.ofSnapshot v.data) := by
  cases hindex : CacheFiles.decode Index.ofDocument? i.files.index (read i.files.index) with
  | error e => rfl
  | ok w =>
    rw [Inventory.installCached, if_neg (h w (decode_eq_ok_iff.mp hindex))]
    rfl

/-- Of all files, only the data file has a say in the answer and in the store. -/
lemma attempt_congr (allowStale : Bool) (now : Instant)
    (h : read' i.files.data = read i.files.data) :
    (attempt i read' allowStale now).1 = (attempt i read allowStale now).1 ∧
      (attempt i read' allowStale now).2.store = (attempt i read allowStale now).2.store := by
  rw [attempt, attempt, Inventory.load, Inventory.load, h]
  cases CacheFiles.decode Snapshot.ofDocument? i.files.data (read i.files.data) with
  | error e => exact ⟨rfl, rfl⟩
  | ok v =>
    simp only [bind, Except.bind]
    cases !allowStale && v.isExpired i.settings.cacheTtl now with
    | true => exact ⟨rfl, rfl⟩
    | false => exact ⟨rfl, (installCached_store i v _).trans (installCached_store i v _).symm⟩

/-- The load is a step of a run that leaves the files and all other inventories as they are. -/
lemma step_attempt (i : Inventory) (t : FileTree) (allowStale : Bool) (now : Instant)
    (before after : List Inventory) (saves : List Save) :
    Step i.settings ⟨t, before ++ i :: after, saves⟩
      ⟨t, before ++ (attempt i t.read allowStale now).2 :: after, saves⟩ := by
  have hleft : (attempt i t.read allowStale now).2 =
      (i.load t.read allowStale now).toOption.getD i := by
    rw [attempt]
    cases i.load t.read allowStale now <;> rfl
  rw [hleft]
  exact .load i allowStale now

end Load

/-- How a load ends is told by the data file, the time to live, the clock and whether a stale
snapshot will do. Only a load that succeeds changes the inventory, and then all of it. -/
theorem load_decided_by_data (i : Inventory) (read : FileReader) (allowStale : Bool)
    (now : Instant) {answer : Except InventoryError Unit} {left : Inventory}
    (hload : attempt i read allowStale now = (answer, left)) :
    (answer = .error (.cacheMissing i.files.data) ↔ read i.files.data = .error .notFound) ∧
    ((∃ fault, answer = .error (.cacheUnusable fault)) ↔ Unusable i.files read) ∧
    (∀ age ttl, answer = .error (.cacheExpired age ttl) ↔ ∃ v, Cached i.files read v ∧
      allowStale = false ∧ age = v.age now ∧ ttl = i.settings.cacheTtl ∧ (ttl : ℤ) < age) ∧
    (answer = .ok () ↔ ∃ v, Cached i.files read v ∧
      (allowStale = true ∨ v.age now ≤ i.settings.cacheTtl)) ∧
    (∀ e, answer = .error e → left = i) ∧
    (∀ v, answer = .ok () → Cached i.files read v →
      left.settings = i.settings ∧ left.store = .ofSnapshot v.data ∧
      (∀ w, CachedIndex i.files read w → w.time = v.time → left.index = w.data) ∧
      ((∀ w, CachedIndex i.files read w → w.time ≠ v.time) →
        left.index = .ofStore (.ofSnapshot v.data))) ∧
    (∀ read' : FileReader, read' i.files.data = read i.files.data →
      (attempt i read' allowStale now).1 = answer ∧
      (attempt i read' allowStale now).2.store = left.store) ∧
    ∀ t : FileTree, t.read = read → ∀ before after saves,
      Step i.settings ⟨t, before ++ i :: after, saves⟩ ⟨t, before ++ left :: after, saves⟩ := by
  have hends := attempt_ends i read allowStale now
  rw [hload] at hends
  refine ⟨⟨?_, ?_⟩, ⟨?_, ?_⟩, fun age ttl => ⟨?_, ?_⟩, ⟨?_, ?_⟩, ?_, ?_, ?_, ?_⟩
  · rintro rfl
    cases hends with
    | missing h => exact h
  · intro h
    rw [attempt_of_missing h] at hload
    exact (congrArg Prod.fst hload).symm
  · rintro ⟨fault, rfl⟩
    cases hends with
    | unusable _ h => exact h
  · intro h
    obtain ⟨fault, hfault⟩ := attempt_of_unusable allowStale now h
    rw [hfault] at hload
    exact ⟨fault, (congrArg Prod.fst hload).symm⟩
  · rintro rfl
    cases hends with
    | @expired v h hstale hage => exact ⟨v, h, hstale, rfl, rfl, hage⟩
  · rintro ⟨v, h, hstale, rfl, rfl, hage⟩
    rw [attempt_of_expired h hstale hage] at hload
    exact (congrArg Prod.fst hload).symm
  · rintro rfl
    cases hends with
    | @good v h hgood => exact ⟨v, h, hgood⟩
  · rintro ⟨v, h, hgood⟩
    rw [attempt_of_good h hgood] at hload
    exact (congrArg Prod.fst hload).symm
  · rintro e rfl
    cases hends <;> rfl
  · rintro v rfl hv
    cases hends with
    | good h _ =>
      obtain rfl := cached_unique hv h
      exact ⟨installCached_settings i v _, installCached_store i v _,
        fun w hw => installCached_index_eq hw, installCached_index_rebuilt⟩
  · intro read' h
    have hcongr := attempt_congr allowStale now h
    rw [hload] at hcongr
    exact hcongr
  · rintro t rfl before after saves
    have hstep := step_attempt i t allowStale now before after saves
    rw [hload] at hstep
    exact hstep

/-- A snapshot that is a day old stands next to an index that may not be read. It is too old, but
it is loaded where a stale one will do, with an index of its own. -/
theorem load_decided_by_data_of_day_old : ∃ i : Inventory,
    i = .new { (default : InventorySettings) with cacheTtl := 3600 } ∧
    ∃ (read : FileReader) (now : Instant) (j : Inventory),
      read i.files.index = .error .permissionDenied ∧
      attempt i read false now = (.error (.cacheExpired 86400 3600), i) ∧
      attempt i read true now = (.ok (), j) ∧
      j.store = exported ringSnapshot ∧ j.index = .ofStore (exported ringSnapshot) := by
  refine ⟨_, rfl, ?_⟩
  generalize hnew : Inventory.new { (default : InventorySettings) with cacheTtl := 3600 } = i
  have httl : i.settings.cacheTtl = 3600 := by rw [← hnew, Inventory.new]
  -- For any snapshot: of a given one the saved file would be computed.
  generalize ringSnapshot = s
  let read : FileReader := fun path =>
    if path = i.files.data then .ok (savedData (fetched s) default) else .error .permissionDenied
  let now : Instant := ⟨1, 0, 0, by decide, by decide⟩
  have hdata : read i.files.data = .ok (savedData (fetched s) default) := if_pos rfl
  have hindex : read i.files.index = .error .permissionDenied := if_neg (index_ne_data i)
  let v : Stamped Snapshot := ⟨default, (Store.ofSnapshot s).toSnapshot⟩
  have hcached : Cached i.files read v := by
    have hdecode := decode_savedData (fetched s) onCalendar_default i.files.data
    rw [← hdata, fetched_store] at hdecode
    exact decode_eq_ok_iff.mp hdecode
  have hage : Instant.secondsBetween default now = 86400 := by decide
  have hnoIndex : ∀ w, ¬CachedIndex i.files read w := by
    rintro w ⟨content, hcontent, -⟩
    rw [hindex] at hcontent
    cases hcontent
  obtain ⟨answer, left, hfresh⟩ : ∃ answer left, attempt i read false now = (answer, left) :=
    ⟨_, _, Prod.mk.eta.symm⟩
  obtain ⟨-, -, hexpired, -, hkept, -⟩ := load_decided_by_data i read false now hfresh
  have hold := (hexpired 86400 3600).mpr ⟨v, hcached, rfl, hage.symm, httl.symm, by decide⟩
  rw [hkept _ hold, hold] at hfresh
  obtain ⟨answer, j, hstale⟩ : ∃ answer j, attempt i read true now = (answer, j) :=
    ⟨_, _, Prod.mk.eta.symm⟩
  obtain ⟨-, -, -, hgood, -, hinstalled, -⟩ := load_decided_by_data i read true now hstale
  have hok := hgood.mpr ⟨v, hcached, .inl rfl⟩
  obtain ⟨-, hstore, -, hrebuilt⟩ := hinstalled v hok hcached
  rw [hok] at hstale
  exact ⟨read, now, j, hindex, hfresh, hstale, hstore,
    hrebuilt fun w hw => (hnoIndex w hw).elim⟩

end HostFleet.Proofs
