import HostFleet.Proofs.InventoryRuns

/-!
# Outcomes of fetches

What a fetch comes to is decided by the reply of the service alone if that delivers a snapshot, and
otherwise by whether there is a cached one, however old. The outcome, what is installed and what the
user is told on the way always agree with each other, and none of it depends on what the inventory
held before or on how the save goes.
-/

namespace HostFleet.Proofs

/-- The reply brings all of a snapshot, under the only status that counts as a success. -/
def Delivers (reply : ServiceReply) (s : Snapshot) : Prop :=
  ∃ body, reply = .answered 200 body true ∧ (Json.read? body).bind Snapshot.ofReply? = some s

/-- The file for data can be read and holds a snapshot, of whatever time. -/
def Cached (files : CacheFiles) (read : FileReader) (v : Stamped Snapshot) : Prop :=
  ∃ content, read files.data = .ok content ∧
    (Json.read? content).bind (Stamped.ofDocument? Snapshot.ofDocument?) = some v

section Fetch

variable {i j : Inventory} {read : FileReader} {reply : ServiceReply} {now : Instant}
  {s : Snapshot} {v : Stamped Snapshot} {e : InventoryError}

lemma snapshot_eq_ok_iff : reply.snapshot = .ok s ↔ Delivers reply s := by
  rw [Delivers]
  cases reply with
  | unreachable detail => simp [ServiceReply.snapshot]
  | answered status body whole =>
    rw [ServiceReply.snapshot]
    by_cases hstatus : status = 200
    · cases whole with
      | false => simp [hstatus]
      | true =>
        cases hread : (Json.read? body).bind Snapshot.ofReply? <;> simp [hstatus, hread]
    · simp [hstatus]

/-- A reply that delivers nothing tells why. -/
lemma exists_snapshot_eq_error (h : ∀ s, ¬ Delivers reply s) : ∃ e, reply.snapshot = .error e := by
  cases hreply : reply.snapshot with
  | ok s => exact (h s (snapshot_eq_ok_iff.mp hreply)).elim
  | error e => exact ⟨e, rfl⟩

lemma decode_eq_ok_iff {α : Type} {ofDocument? : Document → Option α} {path : String}
    {content : Except OsError Bytes} {v : Stamped α} :
    CacheFiles.decode ofDocument? path content = .ok v ↔
      ∃ bytes, content = .ok bytes ∧
        (Json.read? bytes).bind (Stamped.ofDocument? ofDocument?) = some v := by
  cases content with
  | error e => cases e <;> simp [CacheFiles.decode]
  | ok bytes =>
    rw [CacheFiles.decode]
    cases hread : (Json.read? bytes).bind (Stamped.ofDocument? ofDocument?) <;> simp [hread]

/-- A load that may be stale does not look at the clock. -/
lemma load_stale (i : Inventory) (read : FileReader) (now : Instant) : i.load read true now =
    (CacheFiles.decode Snapshot.ofDocument? i.files.data (read i.files.data)).map fun v =>
      i.installCached v
        (CacheFiles.decode Index.ofDocument? i.files.index (read i.files.index)) := by
  rw [Inventory.load]
  cases CacheFiles.decode Snapshot.ofDocument? i.files.data (read i.files.data) <;> rfl

lemma exists_load_of_cached (h : Cached i.files read v) :
    ∃ k, ∀ now, i.load read true now = .ok k := by
  let index := CacheFiles.decode Index.ofDocument? i.files.index (read i.files.index)
  refine ⟨i.installCached v index, fun now => ?_⟩
  rw [load_stale, decode_eq_ok_iff.mpr h]
  rfl

lemma exists_load_eq_error (h : ∀ v, ¬ Cached i.files read v) (now : Instant) :
    ∃ e, i.load read true now = .error e := by
  rw [load_stale]
  cases hdata : CacheFiles.decode Snapshot.ofDocument? i.files.data (read i.files.data) with
  | ok v => exact (h v (decode_eq_ok_iff.mp hdata)).elim
  | error e => exact ⟨e, rfl⟩

lemma ofStore_empty : Index.ofStore {} = .empty := rfl

lemma fetch_of_delivers (h : Delivers reply s) : i.fetch read reply now =
    ⟨⟨i.settings, .ofSnapshot s, .ofStore (.ofSnapshot s)⟩, .fetched, [.saving]⟩ := by
  rw [Inventory.fetch, snapshot_eq_ok_iff.mpr h]
  rfl

lemma fetch_of_cached (now : Instant) (he : reply.snapshot = .error e)
    (h : Cached i.files read v) : ∃ k, (∀ now, i.load read true now = .ok k) ∧
      i.fetch read reply now = ⟨k, .fromCache, [.fetchFailed e, .fallingBack]⟩ := by
  obtain ⟨k, hk⟩ := exists_load_of_cached h
  refine ⟨k, hk, ?_⟩
  rw [Inventory.fetch, he]
  dsimp only
  rw [hk]

lemma fetch_of_nothing (he : reply.snapshot = .error e) (h : ∀ v, ¬ Cached i.files read v) :
    i.fetch read reply now = ⟨⟨i.settings, {}, .empty⟩, .unavailable,
      [.fetchFailed e, .fallingBack, .unavailable]⟩ := by
  obtain ⟨e', he'⟩ := exists_load_eq_error h now
  rw [Inventory.fetch, he]
  dsimp only
  rw [he', Inventory.install, ofStore_empty]

/-- The three ways for a fetch to go exclude each other. -/
lemma fetch_cases (i : Inventory) (read : FileReader) (reply : ServiceReply) (now : Instant) :
    (∃ s, Delivers reply s ∧ (i.fetch read reply now).outcome = .fetched) ∨
      (∀ s, ¬ Delivers reply s) ∧
        ((∃ v, Cached i.files read v) ∧ (i.fetch read reply now).outcome = .fromCache ∨
          (∀ v, ¬ Cached i.files read v) ∧ (i.fetch read reply now).outcome = .unavailable) := by
  by_cases hreply : ∃ s, Delivers reply s
  · obtain ⟨s, hs⟩ := hreply
    exact .inl ⟨s, hs, by rw [fetch_of_delivers hs]⟩
  · rw [not_exists] at hreply
    obtain ⟨e, he⟩ := exists_snapshot_eq_error hreply
    refine .inr ⟨hreply, ?_⟩
    by_cases hcached : ∃ v, Cached i.files read v
    · obtain ⟨v, hv⟩ := hcached
      obtain ⟨k, -, hk⟩ := fetch_of_cached now he hv
      exact .inl ⟨⟨v, hv⟩, by rw [hk]⟩
    · rw [not_exists] at hcached
      exact .inr ⟨hcached, by rw [fetch_of_nothing he hcached]⟩

lemma outcome_eq_fetched_iff (i : Inventory) (read : FileReader) (reply : ServiceReply)
    (now : Instant) :
    (i.fetch read reply now).outcome = .fetched ↔ ∃ s, Delivers reply s := by
  rcases fetch_cases i read reply now with ⟨s, hs, h⟩ | ⟨hreply, ⟨-, h⟩ | ⟨-, h⟩⟩
  · exact iff_of_true h ⟨s, hs⟩
  · exact iff_of_false (by simp [h]) (not_exists.mpr hreply)
  · exact iff_of_false (by simp [h]) (not_exists.mpr hreply)

lemma outcome_eq_fromCache_iff (i : Inventory) (read : FileReader) (reply : ServiceReply)
    (now : Instant) : (i.fetch read reply now).outcome = .fromCache ↔
      (∀ s, ¬ Delivers reply s) ∧ ∃ v, Cached i.files read v := by
  rcases fetch_cases i read reply now with ⟨s, hs, h⟩ | ⟨hreply, ⟨hcached, h⟩ | ⟨hnone, h⟩⟩
  · exact iff_of_false (by simp [h]) fun hfails => hfails.1 s hs
  · exact iff_of_true h ⟨hreply, hcached⟩
  · exact iff_of_false (by simp [h]) fun hfalls => hfalls.2.elim hnone

lemma outcome_eq_unavailable_iff (i : Inventory) (read : FileReader) (reply : ServiceReply)
    (now : Instant) : (i.fetch read reply now).outcome = .unavailable ↔
      (∀ s, ¬ Delivers reply s) ∧ ∀ v, ¬ Cached i.files read v := by
  rcases fetch_cases i read reply now with ⟨s, hs, h⟩ | ⟨hreply, ⟨⟨v, hv⟩, h⟩ | ⟨hnone, h⟩⟩
  · exact iff_of_false (by simp [h]) fun hfails => hfails.1 s hs
  · exact iff_of_false (by simp [h]) fun hfails => hfails.2 v hv
  · exact iff_of_true h ⟨hreply, hnone⟩

/-- Only what was delivered is saved. -/
lemma eq_of_performs_fetch {t t' : FileTree} {time : Instant} {begun : List FileStep}
    (hreply : ∀ s, ¬ Delivers reply s)
    (hsave : Performs t ((i.fetch read reply now).steps time) begun t') : t' = t := by
  have houtcome : (i.fetch read reply now).outcome ≠ .fetched := by
    rw [Ne, outcome_eq_fetched_iff, not_exists]
    exact hreply
  rw [Inventory.Fetch.steps, if_neg houtcome] at hsave
  cases hsave
  rfl

/-- However an inventory is brought up, nothing of what it held is left. -/
lemma refresh_congr (h : j.settings = i.settings) (way : Refresh) :
    way.run j read reply now = way.run i read reply now := by
  cases i
  cases j
  cases h
  cases way <;> rfl

lemma start_of_load (hdrop : i.settings.dropCache = false) {k : Inventory}
    (h : i.load read false now = .ok k) :
    i.start read reply now = (⟨k, .fromCache, []⟩, false) := by
  rw [Inventory.start, hdrop, h]
  rfl

lemma start_of_error (hdrop : i.settings.dropCache = false) (h : i.load read false now = .error e) :
    i.start read reply now = (i.fetch read reply now, true) := by
  rw [Inventory.start, hdrop, h]
  rfl

end Fetch

/-- Any plan may fail at its first step. -/
lemma exists_performs_failing (t : FileTree) (steps : List FileStep) :
    ∃ begun, begun.length ≤ 1 ∧ Performs t steps begun t := by
  cases steps with
  | nil => exact ⟨[], by simp, .done t⟩
  | cons s rest =>
    refine ⟨[s], by simp, .failed rest ?_⟩
    cases s with
    | create folder => exact .create folder (.refl t)
    | write path content => exact .write path content
    | rename source target => exact .rename source target

/-- What an inventory is after a fetch agrees with where the data is said to come from and with
what the user was told, for every reply, all that reading the cache can give, and wherever the save
stops. Nothing of it depends on what the inventory held. -/
theorem fetch_agrees (i : Inventory) (read : FileReader) (reply : ServiceReply)
    (now time : Instant) {f : Inventory.Fetch} (hf : i.fetch read reply now = f)
    {t t' : FileTree} {begun : List FileStep} (hsave : Performs t (f.steps time) begun t') :
    (f.outcome = .fetched ↔ ∃ s, Delivers reply s) ∧
    (f.outcome = .fromCache ↔
      (∀ s, ¬ Delivers reply s) ∧ ∃ v, Cached i.files read v) ∧
    (f.outcome = .unavailable ↔
      (∀ s, ¬ Delivers reply s) ∧ ∀ v, ¬ Cached i.files read v) ∧
    (∀ s, Delivers reply s →
      f = ⟨⟨i.settings, .ofSnapshot s, .ofStore (.ofSnapshot s)⟩, .fetched, [.saving]⟩) ∧
    ((∀ s, ¬ Delivers reply s) → t' = t ∧ ∃ e, reply.snapshot = .error e ∧
      ((∃ v, Cached i.files read v) → ∃ k, (∀ now', i.load read true now' = .ok k) ∧
        f = ⟨k, .fromCache, [.fetchFailed e, .fallingBack]⟩) ∧
      ((∀ v, ¬ Cached i.files read v) →
        f = ⟨⟨i.settings, {}, .empty⟩, .unavailable,
          [.fetchFailed e, .fallingBack, .unavailable]⟩)) ∧
    (∀ j : Inventory, j.settings = i.settings → ∀ way : Refresh,
      way.run j read reply now = way.run i read reply now) ∧
    i.reload read reply now = { f with notices := .reloading :: f.notices } ∧
    (i.settings.dropCache = false →
      (∀ k, i.load read false now = .ok k →
        i.start read reply now = (⟨k, .fromCache, []⟩, false)) ∧
      (∀ e, i.load read false now = .error e → i.start read reply now = (f, true))) := by
  subst hf
  refine ⟨outcome_eq_fetched_iff i read reply now, outcome_eq_fromCache_iff i read reply now,
    outcome_eq_unavailable_iff i read reply now, fun s hs => fetch_of_delivers hs, fun hreply => ?_,
    fun j hj way => refresh_congr hj way, rfl,
    fun hdrop => ⟨fun k hk => start_of_load hdrop hk, fun e he => start_of_error hdrop he⟩⟩
  obtain ⟨e, he⟩ := exists_snapshot_eq_error hreply
  exact ⟨eq_of_performs_fetch hreply hsave, e, he, fun ⟨v, hv⟩ => fetch_of_cached now he hv,
    fun hnone => fetch_of_nothing he hnone⟩

/-- A snapshot is fetched into an inventory that holds nothing, and saving it fails at once. -/
theorem fetch_agrees_of_failed_save : ∃ f begun,
    (Inventory.new default).fetch ({} : FileTree).read (replyOf ringSnapshot) default = f ∧
      f.steps default ≠ [] ∧ begun.length ≤ 1 ∧ Performs {} (f.steps default) begun {} ∧
      Delivers (replyOf ringSnapshot) ringSnapshot ∧
      f = ⟨⟨default, .ofSnapshot ringSnapshot, .ofStore (.ofSnapshot ringSnapshot)⟩, .fetched,
        [.saving]⟩ := by
  have hdelivers : Delivers (replyOf ringSnapshot) ringSnapshot :=
    snapshot_eq_ok_iff.mp (replyOf_snapshot ringSnapshot)
  generalize hf :
    (Inventory.new default).fetch ({} : FileTree).read (replyOf ringSnapshot) default = f
  obtain ⟨begun, hlength, hsave⟩ := exists_performs_failing {} (f.steps default)
  obtain ⟨hfetched, -, -, hstate, -⟩ := fetch_agrees _ _ _ default default hf hsave
  refine ⟨f, begun, rfl, ?_, hlength, hsave, hdelivers, hstate _ hdelivers⟩
  rw [Inventory.Fetch.steps, if_pos (hfetched.mpr ⟨_, hdelivers⟩), saveSteps_eq]
  simp [CacheFiles.saveSteps]

end HostFleet.Proofs
