import HostFleet.Proofs.FetchOutcomes

/-!
# Starts that leave the cache aside

An inventory that is told to drop its cache asks the service at once. The cache has no say in what
comes of that as long as the service delivers a snapshot. When it does not, the fetch falls back to
the cache as any other does, and two starts end alike only if their caches load alike.
-/

namespace HostFleet.Proofs

/-- Two ways of bringing an inventory up have come to the same. -/
structure EndsAlike (f f' : Inventory.Fetch) : Prop where
  outcome : f.outcome = f'.outcome
  store : f.inventory.store = f'.inventory.store
  index : f.inventory.index = f'.inventory.index

/-- The start ends alike whatever the cache holds and whenever it takes place. -/
def IgnoresCache (i : Inventory) (reply : ServiceReply) : Prop :=
  ∀ read read' now now',
    EndsAlike (i.start read reply now).1 (i.start read' reply now').1

/-- What there is to fall back to. -/
def fallback? (i : Inventory) (read : FileReader) : Option Inventory :=
  (i.load read true default).toOption

section Start

variable {i : Inventory} {read read' : FileReader} {reply : ServiceReply} {now now' : Instant}
  {e : InventoryError}

lemma start_of_dropped (hdrop : i.settings.dropCache = true) :
    i.start read reply now = (i.fetch read reply now, true) := by
  rw [Inventory.start, if_pos hdrop]

/-- The clock does not matter to what there is to fall back to. -/
lemma load_toOption (i : Inventory) (read : FileReader) (now : Instant) :
    (i.load read true now).toOption = fallback? i read := by
  rw [fallback?, load_stale, load_stale]

lemma inventory_eq {k k' : Inventory} (hsettings : k.settings = k'.settings)
    (hstore : k.store = k'.store) (hindex : k.index = k'.index) : k = k' := by
  cases k
  cases k'
  cases hsettings
  cases hstore
  cases hindex
  rfl

/-- A load changes no settings. -/
lemma settings_of_fallback {k : Inventory} (h : fallback? i read = some k) :
    k.settings = i.settings := by
  rw [fallback?, load_stale] at h
  cases hdata : CacheFiles.decode Snapshot.ofDocument? i.files.data (read i.files.data) with
  | error e =>
    rw [hdata] at h
    cases h
  | ok v =>
    rw [hdata] at h
    obtain rfl := Option.some.inj h
    exact installCached_settings i v _

/-- A fetch to which nothing is delivered comes to what there is to fall back to, or to nothing. -/
lemma fetch_of_error (read : FileReader) (now : Instant) (he : reply.snapshot = .error e) :
    (i.fetch read reply now).outcome =
        (fallback? i read).elim Outcome.unavailable (fun _ => .fromCache) ∧
      (i.fetch read reply now).inventory = (fallback? i read).getD (i.install {}) := by
  rw [← load_toOption i read now, Inventory.fetch, he]
  dsimp only
  cases i.load read true now with
  | ok k => exact ⟨rfl, rfl⟩
  | error e' => exact ⟨rfl, rfl⟩

/-- Two fetches to which nothing is delivered end alike just when they can fall back to the same. -/
lemma endsAlike_fetch_iff (he : reply.snapshot = .error e) :
    EndsAlike (i.fetch read reply now) (i.fetch read' reply now') ↔
      fallback? i read = fallback? i read' := by
  obtain ⟨houtcome, hinventory⟩ := fetch_of_error (i := i) read now he
  obtain ⟨houtcome', hinventory'⟩ := fetch_of_error (i := i) read' now' he
  constructor
  · intro h
    have hsame := h.outcome
    have hstore := h.store
    have hindex := h.index
    rw [houtcome, houtcome'] at hsame
    rw [hinventory, hinventory'] at hstore hindex
    rcases hk : fallback? i read with _ | k <;> rcases hk' : fallback? i read' with _ | k'
    · rfl
    · rw [hk, hk'] at hsame
      cases hsame
    · rw [hk, hk'] at hsame
      cases hsame
    · rw [hk, hk', Option.getD_some, Option.getD_some] at hstore hindex
      rw [inventory_eq (by rw [settings_of_fallback hk, settings_of_fallback hk']) hstore hindex]
  · intro h
    exact ⟨by rw [houtcome, houtcome', h], by rw [hinventory, hinventory', h],
      by rw [hinventory, hinventory', h]⟩

/-- There are caches to fall back to, and there may be none. -/
lemma exists_fallback_ne (i : Inventory) :
    ∃ read read' : FileReader, fallback? i read ≠ fallback? i read' := by
  let saved : FileReader := fun _ => .ok (savedData i default)
  have hread : saved i.files.data = .ok (savedData i default) := rfl
  obtain ⟨k, hk, -⟩ : ∃ k, i.load saved true default = .ok k ∧
      k.store = .ofSnapshot i.store.toSnapshot :=
    load_savedData i i onCalendar_default hread (.inl rfl)
  refine ⟨saved, fun _ => .error .notFound, ?_⟩
  rw [fallback?, hk, fallback?, load_stale]
  simp [CacheFiles.decode, Except.map, Except.toOption]

end Start

/-- An inventory that drops its cache always asks the service. Two starts end alike just when the
service delivers a snapshot or both caches load alike, so that the cache is ignored just when the
service delivers. -/
theorem start_ignores_cache_iff {i : Inventory} (hdrop : i.settings.dropCache = true)
    (reply : ServiceReply) :
    (∀ read now, (i.start read reply now).2 = true) ∧
    (∀ read read' now now',
      EndsAlike (i.start read reply now).1 (i.start read' reply now').1 ↔
        (∃ s, Delivers reply s) ∨ fallback? i read = fallback? i read') ∧
    (IgnoresCache i reply ↔ ∃ s, Delivers reply s) := by
  have halike : ∀ read read' now now',
      EndsAlike (i.start read reply now).1 (i.start read' reply now').1 ↔
        (∃ s, Delivers reply s) ∨ fallback? i read = fallback? i read' := by
    intro read read' now now'
    rw [start_of_dropped hdrop, start_of_dropped hdrop]
    by_cases hdelivers : ∃ s, Delivers reply s
    · obtain ⟨s, hs⟩ := hdelivers
      refine iff_of_true ?_ (.inl ⟨s, hs⟩)
      dsimp only
      rw [fetch_of_delivers hs, fetch_of_delivers hs]
      exact ⟨rfl, rfl, rfl⟩
    · obtain ⟨e, he⟩ := exists_snapshot_eq_error (not_exists.mp hdelivers)
      rw [or_iff_right hdelivers]
      exact endsAlike_fetch_iff he
  refine ⟨fun read now => by rw [start_of_dropped hdrop], halike, fun h => ?_, fun h => ?_⟩
  · obtain ⟨read, read', hne⟩ := exists_fallback_ne i
    exact ((halike read read' default default).mp (h read read' default default)).resolve_right hne
  · intro read read' now now'
    exact (halike read read' now now').mpr (.inl h)

/-- Settings under which the cache is dropped. -/
def dropping : InventorySettings := { (default : InventorySettings) with dropCache := true }

/-- The cache is ignored when a snapshot comes, and not when the service cannot be reached. -/
theorem start_ignores_cache_iff_of_dropping : dropping.dropCache = true ∧
    IgnoresCache (.new dropping) (replyOf ringSnapshot) ∧
    ¬ IgnoresCache (.new dropping) (.unreachable "refused") := by
  obtain ⟨-, -, hdelivered⟩ :=
    start_ignores_cache_iff (i := .new dropping) rfl (replyOf ringSnapshot)
  obtain ⟨-, -, hunreachable⟩ :=
    start_ignores_cache_iff (i := .new dropping) rfl (.unreachable "refused")
  refine ⟨rfl, hdelivered.mpr ⟨_, snapshot_eq_ok_iff.mp (replyOf_snapshot ringSnapshot)⟩, ?_⟩
  rw [hunreachable]
  rintro ⟨s, body, hreply, -⟩
  cases hreply

end HostFleet.Proofs
