import HostFleet.Proofs.InterruptedSaves
import HostFleet.Proofs.SavedIndex

/-!
# Runs of inventories over one cache

Inventories with the same settings share two cache files. Whatever the service delivers and
wherever saves are interrupted, a cache file holds all of what some save wrote there or is not
there at all. A data file may stand next to the index of another save, but then their times differ
and the index is built anew: no inventory ever has an index of another snapshot.
-/

namespace HostFleet.Proofs
open Std Relation

/-- What was saved and when, with the steps that were begun. -/
structure Save where
  inventory : Inventory
  time : Instant
  begun : List FileStep

/-- The whole of what the save has for the cache file. -/
def Save.Content (s : Save) (path : String) (content : Bytes) : Prop :=
  path = s.inventory.files.data ∧ content = savedData s.inventory s.time ∨
    path = s.inventory.files.index ∧ content = savedIndex s.inventory s.time

/-- The save came as far as writing this, all that it has for the cache file. -/
def Save.Wrote (s : Save) (path : String) (content : Bytes) : Prop :=
  s.Content path content ∧ .write (CacheFiles.draft path) content ∈ s.begun

/-- Inventories with the files that they share and all saves so far, the latest first. -/
structure World where
  tree : FileTree
  inventories : List Inventory := []
  saves : List Save := []

/-- The ways to bring an inventory up. -/
inductive Refresh where
  | fetch
  | start
  | reload

def Refresh.run (i : Inventory) (read : FileReader) (reply : ServiceReply) (now : Instant) :
    Refresh → Inventory.Fetch
  | .fetch => i.fetch read reply now
  | .start => (i.start read reply now).1
  | .reload => i.reload read reply now

/-- The save that comes with a fetch: only what the service delivered is saved. -/
def savesOf (f : Inventory.Fetch) (time : Instant) (begun : List FileStep) : List Save :=
  if f.outcome = .fetched then [⟨f.inventory, time, begun⟩] else []

/-- One of the inventories does something. A load that fails leaves it as it is. -/
inductive Step (settings : InventorySettings) : World → World → Prop where
  | new (w : World) :
    Step settings w { w with inventories := .new settings :: w.inventories }
  | load {t : FileTree} {before after : List Inventory} {saves : List Save} (i : Inventory)
    (allowStale : Bool) (now : Instant) :
    Step settings ⟨t, before ++ i :: after, saves⟩
      ⟨t, before ++ (i.load t.read allowStale now).toOption.getD i :: after, saves⟩
  | save {t t' : FileTree} {before after : List Inventory} {saves : List Save} {i : Inventory}
    {time : Instant} {begun : List FileStep} (h : Performs t (i.saveSteps time) begun t') :
    Step settings ⟨t, before ++ i :: after, saves⟩
      ⟨t', before ++ i :: after, ⟨i, time, begun⟩ :: saves⟩
  | refresh {t t' : FileTree} {before after : List Inventory} {saves : List Save} {i : Inventory}
    (way : Refresh) (reply : ServiceReply) (now : Instant) {f : Inventory.Fetch}
    (hf : f = way.run i t.read reply now) {time : Instant} {begun : List FileStep}
    (h : Performs t (f.steps time) begun t') :
    Step settings ⟨t, before ++ i :: after, saves⟩
      ⟨t', before ++ f.inventory :: after, savesOf f time begun ++ saves⟩

/-! ### What always holds -/

/-- The store comes from a snapshot, and the index belongs to the store. -/
structure Current (settings : InventorySettings) (i : Inventory) : Prop where
  settings : i.settings = settings
  store : ∃ s, i.store = .ofSnapshot s
  index : i.index = .ofStore i.store

/-- The paths of the two cache files. -/
def cachePaths (settings : InventorySettings) : List String :=
  [(Inventory.new settings).files.data, (Inventory.new settings).files.index]

/-- A cache file that is there holds all of what a save wrote for it, or for the other file if both
are in one place. -/
def Whole (settings : InventorySettings) (w : World) : Prop :=
  ∀ path ∈ cachePaths settings, ∀ content, HasFile w.tree path content →
    ∃ save ∈ w.saves, ∃ path', SamePlace w.tree path' path ∧ save.Wrote path' content

structure Sound (settings : InventorySettings) (w : World) : Prop where
  inventories : ∀ i ∈ w.inventories, Current settings i
  saves : ∀ save ∈ w.saves, Current settings save.inventory
  files : Whole settings w

/-- No two saves have the same time, and all have one that a calendar shows. -/
structure Timed (saves : List Save) : Prop where
  distinct : (saves.map Save.time).Nodup
  onCalendar : ∀ save ∈ saves, OnCalendar save.time

section Files

variable {settings : InventorySettings} {t t' : FileTree} {i : Inventory} {time : Instant}
  {begun : List FileStep}

/-- After a save, however far it came, a cache file holds what it held before or the whole of what
was to be saved. -/
lemma hasFile_of_performs_save (h : Performs t (i.saveSteps time) begun t') {path : String}
    (hpath : CachePath path) {held : Bytes} (hfile : HasFile t' path held) :
    HasFile t path held ∨ ∃ path', SamePlace t path' path ∧
      (⟨i, time, begun⟩ : Save).Wrote path' held := by
  rw [saveSteps_eq] at h
  rcases performs_append h with hdata | ⟨t₁, left, right, hdata, hindex, rfl⟩
  · refine (hasFile_of_performs_saveSteps hpath hdata hfile).imp_right ?_
    rintro ⟨hplace, hheld, hbegun⟩
    exact ⟨_, hplace, .inl ⟨rfl, hheld⟩, hheld ▸ hbegun⟩
  · rcases hasFile_of_performs_saveSteps hpath hindex hfile with hfile | ⟨hplace, hheld, hbegun⟩
    · refine (hasFile_of_performs_saveSteps hpath hdata hfile).imp_right ?_
      rintro ⟨hplace, hheld, hbegun⟩
      exact ⟨_, hplace, .inl ⟨rfl, hheld⟩, hheld ▸ List.mem_append_left _ hbegun⟩
    · exact .inr ⟨_, (samePlace_of_performs hdata).mp hplace, .inr ⟨rfl, hheld⟩,
        hheld ▸ List.mem_append_right _ hbegun⟩

lemma whole_of_save {before after : List Inventory} {saves : List Save}
    (hw : Whole settings ⟨t, before, saves⟩) (h : Performs t (i.saveSteps time) begun t') :
    Whole settings ⟨t', after, ⟨i, time, begun⟩ :: saves⟩ := by
  intro path hpath content hfile
  have hcache : CachePath path := by
    obtain ⟨hdata, hindex⟩ := cachePath_of settings.cacheDir settings.projects
    rcases List.mem_pair.mp hpath with rfl | rfl
    · exact hdata
    · exact hindex
  rcases hasFile_of_performs_save h hcache hfile with hfile | ⟨path', hplace, hwrote⟩
  · obtain ⟨save, hsave, path', hplace, hwrote⟩ := hw path hpath content hfile
    exact ⟨save, .tail _ hsave, path', (samePlace_of_performs h).mpr hplace, hwrote⟩
  · exact ⟨_, .head _, path', (samePlace_of_performs h).mpr hplace, hwrote⟩

end Files

section Load

variable {settings : InventorySettings} {w : World} {i : Inventory} {path : String}

/-- What is read as a cached value was in a cache file as a whole. -/
lemma exists_save_of_decode {α : Type} {read : Document → Option α} {v : Stamped α}
    (hw : Whole settings w) (hpath : path ∈ cachePaths settings)
    (h : CacheFiles.decode read path (w.tree.read path) = .ok v) :
    ∃ save ∈ w.saves, ∃ content, (content = savedData save.inventory save.time ∨
      content = savedIndex save.inventory save.time) ∧
        CacheFiles.decode read path (.ok content) = .ok v := by
  cases hread : w.tree.read path with
  | error e =>
    rw [hread] at h
    cases e <;> cases h
  | ok content =>
    obtain ⟨save, hsave, path', -, hwrote, -⟩ := hw path hpath content (hasFile_of_read hread)
    exact ⟨save, hsave, content, hwrote.imp And.right And.right, hread ▸ h⟩

/-- A cached snapshot is one that was saved, with its time. -/
lemma exists_save_of_snapshot {v : Stamped Snapshot} (hw : Whole settings w)
    (htimes : Timed w.saves)
    (h : CacheFiles.decode Snapshot.ofDocument? (Inventory.new settings).files.data
      (w.tree.read (Inventory.new settings).files.data) = .ok v) :
    ∃ save ∈ w.saves, v = ⟨save.time, save.inventory.store.toSnapshot⟩ := by
  obtain ⟨save, hsave, content, hcontent | hcontent, hdecode⟩ :=
    exists_save_of_decode hw List.mem_cons_self h
  · rw [hcontent, decode_savedData _ (htimes.onCalendar save hsave)] at hdecode
    exact ⟨save, hsave, (Except.ok.inj hdecode).symm⟩
  · rw [hcontent] at hdecode
    exact (decode_savedIndex_ne _ _ hdecode).elim

/-- A cached index is one that was saved, with its time. -/
lemma exists_save_of_index {v : Stamped Index} (hw : Sound settings w) (htimes : Timed w.saves)
    (h : CacheFiles.decode Index.ofDocument? (Inventory.new settings).files.index
      (w.tree.read (Inventory.new settings).files.index) = .ok v) :
    ∃ save ∈ w.saves, v = ⟨save.time, save.inventory.index⟩ := by
  obtain ⟨save, hsave, content, hcontent | hcontent, hdecode⟩ :=
    exists_save_of_decode hw.files (List.mem_cons_of_mem _ List.mem_cons_self) h
  · rw [hcontent] at hdecode
    exact (decode_savedData_ne _ _ hdecode).elim
  · have hstorable : ∀ domain, Storable (save.inventory.index.completer domain) := by
      rw [(hw.saves save hsave).index]
      exact storable_ofStore _
    rw [hcontent, decode_savedIndex hstorable (htimes.onCalendar save hsave)] at hdecode
    exact ⟨save, hsave, (Except.ok.inj hdecode).symm⟩

/-- The index of what was saved also belongs to the store that is rebuilt from the export. -/
lemma Current.index_rebuilt (h : Current settings i) :
    i.index = .ofStore (.ofSnapshot i.store.toSnapshot) := by
  obtain ⟨s, hs⟩ := h.store
  rw [h.index, hs, ← exported, ofStore_exported]

lemma current_install (h : i.settings = settings) (s : Snapshot) :
    Current settings (i.install (.ofSnapshot s)) := ⟨h, ⟨s, rfl⟩, rfl⟩

/-- An index is installed only with the snapshot that it was saved with. -/
lemma current_of_load (hw : Sound settings w) (htimes : Timed w.saves)
    (hi : i.settings = settings) {allowStale : Bool} {now : Instant} {j : Inventory}
    (h : i.load w.tree.read allowStale now = .ok j) : Current settings j := by
  have hfiles : i.files = (Inventory.new settings).files := by
    rw [Inventory.files, hi]
    rfl
  rw [Inventory.load, hfiles] at h
  cases hdata : CacheFiles.decode Snapshot.ofDocument? (Inventory.new settings).files.data
      (w.tree.read (Inventory.new settings).files.data) with
  | error e =>
    rw [hdata] at h
    cases h
  | ok snapshot =>
    obtain ⟨save, hsave, rfl⟩ := exists_save_of_snapshot hw.files htimes hdata
    simp only [hdata, bind, Except.bind] at h
    split at h
    · cases h
    · obtain rfl := Except.ok.inj h
      cases hindex : CacheFiles.decode Index.ofDocument? (Inventory.new settings).files.index
          (w.tree.read (Inventory.new settings).files.index) with
      | error e => exact current_install hi _
      | ok index =>
        obtain ⟨save', hsave', rfl⟩ := exists_save_of_index hw htimes hindex
        rw [Inventory.installCached]
        dsimp only
        split
        · next htime =>
          -- The two files may come from different saves, but not if their times are equal.
          obtain rfl := List.inj_on_of_nodup_map htimes.distinct hsave' hsave htime
          exact ⟨hi, ⟨_, rfl⟩, (hw.saves save' hsave').index_rebuilt⟩
        · exact current_install hi _

/-- However a fetch ends, the index belongs to the store. -/
lemma current_of_fetch (hw : Sound settings w) (htimes : Timed w.saves)
    (hi : i.settings = settings) (reply : ServiceReply) (now : Instant) :
    Current settings (i.fetch w.tree.read reply now).inventory := by
  rw [Inventory.fetch]
  cases reply.snapshot with
  | ok s => exact current_install hi s
  | error e =>
    cases hload : i.load w.tree.read true now with
    | ok j => exact current_of_load hw htimes hi hload
    | error e' => exact current_install hi {}

lemma current_of_refresh (hw : Sound settings w) (htimes : Timed w.saves)
    (hi : i.settings = settings) (way : Refresh) (reply : ServiceReply) (now : Instant) :
    Current settings (way.run i w.tree.read reply now).inventory := by
  cases way with
  | fetch => exact current_of_fetch hw htimes hi reply now
  | reload => exact current_of_fetch hw htimes hi reply now
  | start =>
    rw [Refresh.run, Inventory.start]
    split
    · exact current_of_fetch hw htimes hi reply now
    · cases hload : i.load w.tree.read false now with
      | ok j => exact current_of_load hw htimes hi hload
      | error e => exact current_of_fetch hw htimes hi reply now

end Load

/-! ### Runs -/

section Run

variable {settings : InventorySettings} {w w' : World}

lemma current_new (settings : InventorySettings) : Current settings (.new settings) :=
  ⟨rfl, ⟨{}, rfl⟩, rfl⟩

lemma forall_mem_replaced {P : Inventory → Prop} {before after : List Inventory} {i j : Inventory}
    (h : ∀ k ∈ before ++ i :: after, P k) (hj : P j) : ∀ k ∈ before ++ j :: after, P k := by
  intro k hk
  rcases List.mem_append.mp hk with hk | hk
  · exact h k (List.mem_append_left _ hk)
  · rcases List.mem_cons.mp hk with rfl | hk
    · exact hj
    · exact h k (List.mem_append_right _ (.tail _ hk))

/-- No save is forgotten. -/
lemma saves_suffix_of_step (h : Step settings w w') : w.saves <:+ w'.saves := by
  cases h with
  | new => exact List.suffix_refl _
  | load => exact List.suffix_refl _
  | save => exact List.suffix_cons _ _
  | refresh => exact List.suffix_append _ _

lemma Timed.of_suffix {saves saves' : List Save} (h : Timed saves') (hsuffix : saves <:+ saves') :
    Timed saves where
  distinct := h.distinct.sublist (hsuffix.sublist.map _)
  onCalendar := fun save hsave => h.onCalendar save (hsuffix.mem hsave)

theorem sound_of_step (hw : Sound settings w) (htimes : Timed w.saves)
    (h : Step settings w w') : Sound settings w' := by
  cases h with
  | new =>
    exact ⟨List.forall_mem_cons.mpr ⟨current_new settings, hw.inventories⟩, hw.saves, hw.files⟩
  | @load t before after saves i allowStale now =>
    have hi := hw.inventories i (List.mem_append_right _ (.head _))
    refine ⟨forall_mem_replaced hw.inventories ?_, hw.saves, hw.files⟩
    cases hload : i.load t.read allowStale now with
    | ok j => exact current_of_load hw htimes hi.settings hload
    | error e => exact hi
  | @save t t' before after saves i time begun hperforms =>
    have hi := hw.inventories i (List.mem_append_right _ (.head _))
    exact ⟨hw.inventories, List.forall_mem_cons.mpr ⟨hi, hw.saves⟩,
      whole_of_save hw.files hperforms⟩
  | @refresh t t' before after saves i way reply now f hf time begun hperforms =>
    have hi := hw.inventories i (List.mem_append_right _ (.head _))
    have hcurrent : Current settings f.inventory :=
      hf ▸ current_of_refresh hw htimes hi.settings way reply now
    have hinventories := forall_mem_replaced hw.inventories hcurrent
    rw [Inventory.Fetch.steps] at hperforms
    rw [savesOf]
    split at hperforms
    · next hfetched =>
      rw [if_pos hfetched]
      exact ⟨hinventories, List.forall_mem_cons.mpr ⟨hcurrent, hw.saves⟩,
        whole_of_save hw.files hperforms⟩
    · next hfetched =>
      rw [if_neg hfetched]
      cases hperforms
      exact ⟨hinventories, hw.saves, hw.files⟩

/-- What holds at first holds after every run in which no two saves have the same time. -/
theorem sound_of_run {start : World} (hstart : Sound settings start)
    (hrun : ReflTransGen (Step settings) start w) (htimes : Timed w.saves) :
    Sound settings w := by
  induction hrun with
  | refl => exact hstart
  | tail _ hstep ih =>
    have hbefore := htimes.of_suffix (saves_suffix_of_step hstep)
    exact sound_of_step (ih hbefore) hbefore hstep

end Run

/-- From a folder without cache files no run leads to an inventory whose index is not that of its
store, or to a cache file that does not hold all of what one of the saves had to write there. -/
theorem index_current_of_run {settings : InventorySettings} {t : FileTree} {w : World}
    (hstart : ∀ path ∈ cachePaths settings, ∀ content, ¬ HasFile t path content)
    (hrun : ReflTransGen (Step settings) ⟨t, [], []⟩ w) (htimes : Timed w.saves) :
    (∀ i ∈ w.inventories, i.index = .ofStore i.store) ∧
      ∀ path ∈ cachePaths settings, ∀ content, w.tree.read path = .ok content →
        ∃ save ∈ w.saves, ∃ path', SamePlace w.tree path' path ∧ save.Wrote path' content := by
  have hempty : Sound settings ⟨t, [], []⟩ :=
    ⟨List.forall_mem_nil _, List.forall_mem_nil _, fun path hpath content hfile =>
      absurd hfile (hstart path hpath content)⟩
  have hsound := sound_of_run hempty hrun htimes
  exact ⟨fun i hi => (hsound.inventories i hi).index,
    fun path hpath content hread => hsound.files path hpath content (hasFile_of_read hread)⟩

/-- One inventory fetches a snapshot and saves it, and then another one loads the cache. -/
lemma exists_run (s : Snapshot) : ∃ w : World,
    ReflTransGen (Step default) ⟨{}, [], []⟩ w ∧ w.inventories.length = 2 ∧
      ∃ save, w.saves = [save] ∧ save.time = default ∧ save.inventory.store = .ofSnapshot s := by
  generalize hf : (Inventory.new default).fetch ({} : FileTree).read (replyOf s) default = f
  obtain ⟨begun, hperforms⟩ := exists_performs {} (f.steps default)
  generalize (({} : FileTree).perform (f.steps default)).1 = t at hperforms
  have hfirst : Step default ⟨{}, [], []⟩ ⟨{}, [.new default], []⟩ := .new _
  have hfetch := @Step.refresh default {} t [] [] [] (.new default) .fetch (replyOf s) default f
    hf.symm default begun hperforms
  have hsecond : Step default ⟨t, [f.inventory], savesOf f default begun⟩
      ⟨t, [.new default, f.inventory], savesOf f default begun⟩ := .new _
  have hload := @Step.load default t [] [f.inventory] (savesOf f default begun) (.new default) true
    default
  rw [List.append_nil] at hfetch
  refine ⟨_, (((ReflTransGen.single hfirst).tail hfetch).tail hsecond).tail hload, rfl,
    ⟨f.inventory, default, begun⟩, ?_, rfl, hf ▸ fetch_store (replyOf_snapshot s) default⟩
  have hfetched : f.outcome = .fetched := by
    rw [← hf, Inventory.fetch, replyOf_snapshot]
  rw [savesOf, if_pos hfetched]

theorem index_current_of_run_of_two : ∃ w : World,
    (∀ path ∈ cachePaths default, ∀ content, ¬ HasFile {} path content) ∧
      ReflTransGen (Step default) ⟨{}, [], []⟩ w ∧ Timed w.saves ∧
      w.inventories.length = 2 ∧
      (∃ save ∈ w.saves, save.inventory.store = .ofSnapshot ringSnapshot) ∧
      (∀ i ∈ w.inventories, i.index = .ofStore i.store) ∧
      ∀ path ∈ cachePaths default, ∀ content, w.tree.read path = .ok content →
        ∃ save ∈ w.saves, ∃ path', SamePlace w.tree path' path ∧ save.Wrote path' content := by
  obtain ⟨w, hrun, hlength, save, hsaves, htime, hstore⟩ := exists_run ringSnapshot
  have hstart : ∀ path ∈ cachePaths default, ∀ content, ¬ HasFile {} path content := by
    intro path _ content hfile
    simp [hasFile_iff] at hfile
  have htimes : Timed w.saves := by
    refine ⟨by simp [hsaves], fun save' hsave' => ?_⟩
    obtain rfl : save' = save := by simpa [hsaves] using hsave'
    rw [htime]
    exact onCalendar_default
  exact ⟨w, hstart, hrun, htimes, hlength, ⟨save, by simp [hsaves], hstore⟩,
    index_current_of_run hstart hrun htimes⟩

end HostFleet.Proofs
