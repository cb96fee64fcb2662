import HostFleet.Inventory.Cache
import HostFleet.Proofs.CacheNames

/-!
# Saves that are interrupted

A save may come to a halt at any of its steps and leave folders, a draft or a part of a draft
behind. What a cache file holds afterwards it held before, or else it is the whole of what was to
be saved: a draft never is in the place of a cache file, and it is moved there only when all of it
was written.
-/

namespace HostFleet.Proofs
open Std

/-! ### Places -/

/-- One part of a path further. -/
def descend (place : Place) (part : String) : Place :=
  if part = ".." then place.tail else part :: place

/-- Where a path leads if there is a folder wherever it needs one. -/
def spot (t : FileTree) (path : String) : Place :=
  (Path.parts path).foldl descend (if Path.isAbsolute path then [] else t.working)

/-- Both paths lead to one place. -/
def SamePlace (t : FileTree) (a b : String) : Prop := (spot t a).key = (spot t b).key

/-- At the place that the path leads to there is a file with this content. -/
def HasFile (t : FileTree) (path : String) (content : Bytes) : Prop :=
  t.node? (spot t path) = some (.file content)

section Places

variable {t t' : FileTree} {path : String} {content : Bytes} {p : Place}

lemma walk_eq {place : Place} {parts : List String} (h : t.walk place parts = .ok p) :
    p = parts.foldl descend place := by
  induction parts generalizing place with
  | nil => exact (Except.ok.inj h).symm
  | cons part rest ih =>
    rw [FileTree.walk] at h
    rw [List.foldl_cons, descend]
    split at h
    · cases h
    · cases h
    · split at h
      · cases h
      · split at h
        · next hup =>
          rw [if_pos hup]
          exact ih h
        · next hup =>
          rw [if_neg hup]
          exact ih h

lemma locate_eq (h : t.locate path = .ok p) : p = spot t path := by
  rw [FileTree.locate] at h
  split at h
  · cases h
  · split at h
    · cases h
    · split at h
      · cases h
      · exact walk_eq h

/-- When a file can be read, and what it holds. -/
lemma read_eq_ok_iff : t.read path = .ok content ↔
    t.locate path = .ok (spot t path) ∧ HasFile t path content ∧
      Path.endsInFolder path = false := by
  rw [FileTree.read]
  constructor
  · intro h
    cases hp : t.locate path with
    | error e =>
      rw [hp] at h
      cases h
    | ok p =>
      obtain rfl := locate_eq hp
      simp only [hp, bind, Except.bind] at h
      split at h
      · next content' hnode =>
        split at h
        · cases h
        · next hends =>
          obtain rfl := Except.ok.inj h
          exact ⟨rfl, hnode, by simpa using hends⟩
      · cases h
      · cases h
  · rintro ⟨hp, hfile, hends⟩
    rw [HasFile] at hfile
    simp [hp, hfile, hends, bind, Except.bind]

lemma hasFile_of_read (h : t.read path = .ok content) : HasFile t path content :=
  (read_eq_ok_iff.mp h).2.1

/-- When a file can be put at a path, and what becomes of the tree. -/
lemma write_eq_ok_iff : t.write path content = .ok t' ↔
    t.locate path = .ok (spot t path) ∧ t.node? (spot t path) ≠ some .folder ∧
      path.endsWith "/" = false ∧ t' = t.put (spot t path) (.file content) := by
  rw [FileTree.write]
  constructor
  · intro h
    cases hp : t.locate path with
    | error e =>
      rw [hp] at h
      cases h
    | ok p =>
      obtain rfl := locate_eq hp
      simp only [hp, bind, Except.bind] at h
      split at h
      · cases h
      · next hplace =>
        simp only [Bool.or_eq_true, beq_iff_eq, not_or, Bool.not_eq_true] at hplace
        exact ⟨rfl, hplace.1, hplace.2, (Except.ok.inj h).symm⟩
  · rintro ⟨hp, hnode, hends, rfl⟩
    simp [hp, hnode, hends, bind, Except.bind]

lemma eq_put_of_write (h : t.write path content = .ok t') :
    t' = t.put (spot t path) (.file content) :=
  (write_eq_ok_iff.mp h).2.2.2

/-- What a file that was moved held stands at the target, and only the source is gone. -/
lemma eq_of_rename {source target : String} (h : t.rename source target = .ok t') :
    ∃ content, HasFile t source content ∧ (t' = t ∨
      t' = { t.put (spot t target) (.file content) with
        nodes := (t.put (spot t target) (.file content)).nodes.erase (spot t source).key }) := by
  rw [FileTree.rename] at h
  cases hread : t.read source with
  | error e =>
    rw [hread] at h
    cases h
  | ok content =>
    refine ⟨content, hasFile_of_read hread, ?_⟩
    cases hp : t.locate source with
    | error e =>
      simp only [hread, hp, bind, Except.bind] at h
      cases h
    | ok p =>
      cases hwrite : t.write target content with
      | error e =>
        simp only [hread, hp, hwrite, bind, Except.bind] at h
        cases h
      | ok t₁ =>
        cases hq : t.locate target with
        | error e =>
          simp only [hread, hp, hwrite, hq, bind, Except.bind] at h
          cases h
        | ok q =>
          simp only [hread, hp, hwrite, hq, bind, Except.bind] at h
          split at h
          · exact .inl (Except.ok.inj h).symm
          · rw [← eq_put_of_write hwrite, ← locate_eq hp]
            exact .inr (Except.ok.inj h).symm

lemma hasFile_iff : HasFile t path content ↔
    spot t path ≠ [] ∧ t.nodes[(spot t path).key]? = some (.file content) := by
  rw [HasFile, FileTree.node?]
  cases spot t path with
  | nil => simp
  | cons part place => simp

lemma spot_put {n : Node} : spot (t.put p n) path = spot t path := rfl

/-- What is put at one place is not seen at another. -/
lemma hasFile_put_iff {n : Node} (h : (spot t path).key ≠ p.key) :
    HasFile (t.put p n) path content ↔ HasFile t path content := by
  rw [hasFile_iff, hasFile_iff, spot_put, FileTree.put, ExtTreeMap.getElem?_insert,
    if_neg (by simpa using h.symm)]

lemma eq_of_hasFile_put {content' : Bytes} (h : (spot t path).key = p.key)
    (hfile : HasFile (t.put p (.file content')) path content) : content = content' := by
  rw [hasFile_iff, spot_put, FileTree.put, ExtTreeMap.getElem?_insert, if_pos (by simp [h])]
    at hfile
  exact (Node.file.inj (Option.some.inj hfile.2)).symm

lemma hasFile_of_erase {key : String}
    (h : HasFile { t with nodes := t.nodes.erase key } path content) : HasFile t path content := by
  rw [hasFile_iff] at h ⊢
  refine ⟨h.1, ?_⟩
  have hnode := h.2
  rw [ExtTreeMap.getElem?_erase] at hnode
  split at hnode
  · cases hnode
  · exact hnode

end Places

/-! ### Paths of cache files and of drafts -/

/-- A path as cache files have it. -/
def CachePath (path : String) : Prop := ∃ front, path = front ++ ".json"

section CachePath

variable {t : FileTree} {a b : String}

lemma key_cons (part : String) (place : Place) :
    Place.key (part :: place) = place.key ++ "/" ++ part := by
  simp [Place.key, String.append_assoc]

/-- A path's last letters are the last ones of the place's key. -/
lemma exists_spot_append (t : FileTree) (front ending : String)
    (hslash : '/' ∉ ending.toList) (hlength : 2 ≤ ending.toList.length)
    (hdot : ending.toList.getLast? ≠ some '.') :
    ∃ before, (spot t (front ++ ending)).key = before ++ ending := by
  obtain ⟨parts, stem, hparts⟩ := exists_parts_append front
  have hup : stem ++ ending ≠ ".." := by
    intro heq
    have hlast := congrArg (fun s => s.toList.getLast?) heq
    have hne : ending.toList ≠ [] := List.ne_nil_of_length_pos (by omega)
    simp only [String.toList_append, List.getLast?_append_of_ne_nil _ hne] at hlast
    exact hdot hlast
  rw [spot, hparts ending hslash hlength, List.foldl_append, List.foldl_cons, List.foldl_nil,
    descend, if_neg hup, key_cons, ← String.append_assoc]
  exact ⟨_, rfl⟩

/-- No draft is in the place of a cache file. -/
lemma key_ne_draft (ha : CachePath a) (b : String) :
    (spot t a).key ≠ (spot t (CacheFiles.draft b)).key := by
  obtain ⟨front, rfl⟩ := ha
  obtain ⟨before, hfile⟩ :=
    exists_spot_append t front ".json" (by decide) (by decide) (by decide)
  obtain ⟨before', hdraft⟩ :=
    exists_spot_append t b ".tmp" (by decide) (by decide) (by decide)
  intro heq
  rw [CacheFiles.draft, hfile, hdraft] at heq
  have hlast := congrArg (fun s => s.toList.getLast?) heq
  simp [String.toList_append] at hlast

lemma cachePath_join (dir : String) {file : String} (habsolute : Path.isAbsolute file = false)
    (hfile : CachePath file) : CachePath (Path.join dir file) := by
  obtain ⟨front, -, hjoin⟩ := exists_join_eq dir
  obtain ⟨name, rfl⟩ := hfile
  exact ⟨front ++ name, by rw [hjoin _ habsolute, String.append_assoc]⟩

/-- Both files of a cache have such paths. -/
lemma cachePath_of (dir : String) (projects : List String) :
    CachePath (CacheFiles.of dir projects).data ∧
      CachePath (CacheFiles.of dir projects).index :=
  ⟨cachePath_join dir (isAbsolute_cacheName _).1 ⟨_, rfl⟩,
    cachePath_join dir (isAbsolute_cacheName _).2 ⟨_, rfl⟩⟩

end CachePath

/-! ### Steps that fail -/

/-- Nothing was changed but that folders were made where nothing stood. -/
structure MoreFolders (t t' : FileTree) : Prop where
  working : t'.working = t.working
  nodes : ∀ key : String, t'.nodes[key]? = t.nodes[key]? ∨
    t.nodes[key]? = none ∧ t'.nodes[key]? = some .folder

/-- What a step leaves behind when it fails: some of the folders, or a part of the content. -/
inductive Fails (t : FileTree) : FileStep → FileTree → Prop where
  | create (folder : String) {t' : FileTree} (h : MoreFolders t t') : Fails t (.create folder) t'
  | write (path : String) (content : Bytes) : Fails t (.write path content) t
  | writePart {path : String} {content part : Bytes} {t' : FileTree} (hpart : part <+: content)
    (h : t.write path part = .ok t') : Fails t (.write path content) t'
  | rename (source target : String) : Fails t (.rename source target) t

/-- The steps are taken in order up to one that fails, as any of them may. The third part are the
steps that were begun. -/
inductive Performs : FileTree → List FileStep → List FileStep → FileTree → Prop where
  | done (t : FileTree) : Performs t [] [] t
  | next {t t₁ t' : FileTree} {s : FileStep} {rest begun : List FileStep}
    (h : t.step s = (t₁, none)) (hrest : Performs t₁ rest begun t') :
    Performs t (s :: rest) (s :: begun) t'
  | failed {t t' : FileTree} {s : FileStep} (rest : List FileStep) (h : Fails t s t') :
    Performs t (s :: rest) [s] t'

section Performs

variable {t t' t'' : FileTree} {path : String} {begun : List FileStep}

lemma MoreFolders.refl (t : FileTree) : MoreFolders t t := ⟨rfl, fun _ => .inl rfl⟩

lemma MoreFolders.trans (h : MoreFolders t t') (h' : MoreFolders t' t'') : MoreFolders t t'' := by
  refine ⟨h'.working.trans h.working, fun key => ?_⟩
  rcases h'.nodes key with heq | ⟨hnone, hfolder⟩
  · rw [heq]
    exact h.nodes key
  · rcases h.nodes key with heq | ⟨-, hfolder'⟩
    · exact .inr ⟨heq ▸ hnone, hfolder⟩
    · rw [hnone] at hfolder'
      cases hfolder'

/-- Making folders leaves the files as they are. -/
lemma MoreFolders.hasFile_iff {content : Bytes} (h : MoreFolders t t') :
    HasFile t' path content ↔ HasFile t path content := by
  have hspot : spot t' path = spot t path := by rw [spot, h.working, spot]
  rw [Proofs.hasFile_iff, Proofs.hasFile_iff, hspot]
  apply and_congr_right
  intro _
  rcases h.nodes (spot t path).key with heq | ⟨hnone, hfolder⟩
  · rw [heq]
  · simp [hnone, hfolder]

lemma moreFolders_of_makeFolder (h : t.makeFolder path = .ok t') : MoreFolders t t' := by
  rw [FileTree.makeFolder] at h
  cases hp : t.locate path with
  | error e =>
    rw [hp] at h
    cases h
  | ok p =>
    simp only [hp, bind, Except.bind] at h
    split at h
    · cases h
    · next hnone =>
      obtain rfl := Except.ok.inj h
      refine ⟨rfl, fun key => ?_⟩
      rw [FileTree.put, ExtTreeMap.getElem?_insert]
      split
      · next hkey =>
        obtain rfl : p.key = key := by simpa using hkey
        rw [FileTree.node?] at hnone
        split at hnone
        · cases hnone
        · exact .inr ⟨hnone, rfl⟩
      · exact .inl rfl

lemma moreFolders_makeEach (t : FileTree) (paths : List String) :
    MoreFolders t (t.makeEach paths).1 := by
  induction paths generalizing t with
  | nil => exact .refl t
  | cons path rest ih =>
    rw [FileTree.makeEach]
    split
    · next t₁ hmade => exact (moreFolders_of_makeFolder hmade).trans (ih t₁)
    · split
      · exact ih t
      · exact .refl t

lemma moreFolders_makeFolders (t : FileTree) (path : String) :
    MoreFolders t (t.makeFolders path).1 := by
  rw [FileTree.makeFolders]
  split
  · exact .refl t
  · split
    · next t₁ hmade => exact moreFolders_of_makeFolder hmade
    · exact moreFolders_makeEach t _
    · exact .refl t

lemma moreFolders_of_step {folder : String} {e : Option OsError}
    (h : t.step (.create folder) = (t', e)) : MoreFolders t t' := by
  have hmore := moreFolders_makeFolders t folder
  rw [FileTree.step] at h
  rw [h] at hmore
  exact hmore

/-- Where the tree itself lets a step fail, this is one of the ways. -/
lemma fails_of_step {s : FileStep} {e : OsError} (h : t.step s = (t', some e)) : Fails t s t' := by
  cases s with
  | create folder => exact .create folder (moreFolders_of_step h)
  | write path content =>
    rw [FileTree.step] at h
    cases hwrite : t.write path content with
    | ok t₁ =>
      rw [hwrite] at h
      cases h
    | error e' =>
      rw [hwrite] at h
      cases h
      exact .write path content
  | rename source target =>
    rw [FileTree.step] at h
    cases hrename : t.rename source target with
    | ok t₁ =>
      rw [hrename] at h
      cases h
    | error e' =>
      rw [hrename] at h
      cases h
      exact .rename source target

/-- What a tree makes of a plan is one of the things that may become of it. -/
theorem exists_performs (t : FileTree) (steps : List FileStep) :
    ∃ begun, Performs t steps begun (t.perform steps).1 := by
  induction steps generalizing t with
  | nil => exact ⟨[], .done t⟩
  | cons s rest ih =>
    rw [FileTree.perform]
    split
    · next t₁ hstep =>
      obtain ⟨begun, hrest⟩ := ih t₁
      exact ⟨s :: begun, .next hstep hrest⟩
    · next t₁ e hstep => exact ⟨[s], .failed rest (fails_of_step hstep)⟩

/-- A plan in two parts is left in the first one, or in the second one after all of the first. -/
lemma performs_append {first second : List FileStep} (h : Performs t (first ++ second) begun t') :
    Performs t first begun t' ∨ ∃ t₁ left right,
      Performs t first left t₁ ∧ Performs t₁ second right t' ∧ begun = left ++ right := by
  induction first generalizing t begun with
  | nil => exact .inr ⟨t, [], begun, .done t, h, rfl⟩
  | cons s first ih =>
    cases h with
    | failed _ hfails => exact .inl (.failed first hfails)
    | next hstep hrest =>
      rcases ih hrest with hleft | ⟨t₁, left, right, hleft, hright, rfl⟩
      · exact .inl (.next hstep hleft)
      · exact .inr ⟨t₁, s :: left, right, .next hstep hleft, hright, rfl⟩

lemma moreFolders_of_performs {folders : List String}
    (h : Performs t (folders.map .create) begun t') : MoreFolders t t' := by
  induction folders generalizing t begun with
  | nil =>
    cases h
    exact .refl _
  | cons folder folders ih =>
    cases h with
    | failed _ hfails =>
      cases hfails with
      | create _ hmore => exact hmore
    | next hstep hrest => exact (moreFolders_of_step hstep).trans (ih hrest)

/-- A step that is taken does what the tree does. -/
lemma step_eq_write {content : Bytes} (h : t.step (.write path content) = (t', none)) :
    t.write path content = .ok t' := by
  rw [FileTree.step] at h
  cases hwrite : t.write path content with
  | ok t₁ =>
    rw [hwrite] at h
    cases h
    rfl
  | error e =>
    rw [hwrite] at h
    cases h

lemma step_eq_rename {target : String} (h : t.step (.rename path target) = (t', none)) :
    t.rename path target = .ok t' := by
  rw [FileTree.step] at h
  cases hrename : t.rename path target with
  | ok t₁ =>
    rw [hrename] at h
    cases h
    rfl
  | error e =>
    rw [hrename] at h
    cases h

lemma working_of_step {s : FileStep} (h : t.step s = (t', none)) : t'.working = t.working := by
  cases s with
  | create folder => exact (moreFolders_of_step h).working
  | write path content =>
    rw [eq_put_of_write (step_eq_write h)]
    rfl
  | rename source target =>
    obtain ⟨content, -, rfl | rfl⟩ := eq_of_rename (step_eq_rename h) <;> rfl

/-- Relative paths keep their beginning. -/
lemma working_of_performs {steps : List FileStep} (h : Performs t steps begun t') :
    t'.working = t.working := by
  induction h with
  | done => rfl
  | next hstep _ ih => exact ih.trans (working_of_step hstep)
  | failed _ hfails =>
    cases hfails with
    | create _ hmore => exact hmore.working
    | write => rfl
    | writePart _ hpart =>
      rw [eq_put_of_write hpart]
      rfl
    | rename => rfl

lemma samePlace_of_performs {steps : List FileStep} (h : Performs t steps begun t')
    {a b : String} : SamePlace t' a b ↔ SamePlace t a b := by
  simp only [SamePlace, spot, working_of_performs h]

end Performs

/-! ### One cache file -/

section Save

variable {t t' : FileTree} {path other : String} {content held : Bytes} {begun : List FileStep}

/-- A write that was not completed can be seen in the draft alone. -/
lemma hasFile_of_write {draft : String} (hother : (spot t other).key ≠ (spot t draft).key)
    (h : t.write draft content = .ok t') : HasFile t' other held ↔ HasFile t other held := by
  rw [eq_put_of_write h, hasFile_put_iff hother]

/-- The draft of a cache file is written, in part or as a whole, and only a whole draft is moved
to the place of the file. -/
lemma hasFile_of_performs_draft (hother : CachePath other)
    (h : Performs t [.write (CacheFiles.draft path) content,
      .rename (CacheFiles.draft path) path] begun t') (hfile : HasFile t' other held) :
    HasFile t other held ∨ (SamePlace t path other ∧ held = content ∧
      .write (CacheFiles.draft path) content ∈ begun) := by
  have hne : (spot t other).key ≠ (spot t (CacheFiles.draft path)).key := key_ne_draft hother path
  cases h with
  | failed _ hfails =>
    cases hfails with
    | write => exact .inl hfile
    | writePart _ hpart => exact .inl ((hasFile_of_write hne hpart).mp hfile)
  | @next _ t₁ _ _ _ _ hstep hrest =>
    have hwrite := step_eq_write hstep
    cases hrest with
    | failed _ hfails =>
      cases hfails
      exact .inl ((hasFile_of_write hne hwrite).mp hfile)
    | @next _ t₂ _ _ _ _ hstep hrest =>
      have hrename := step_eq_rename hstep
      cases hrest
      have hspot : ∀ p, spot t₁ p = spot t p := by
        intro p
        rw [eq_put_of_write hwrite, spot_put]
      -- The draft holds the whole content by now, so this is what is moved.
      obtain ⟨moved, hmoved, rfl | rfl⟩ := eq_of_rename hrename
      · exact .inl ((hasFile_of_write hne hwrite).mp hfile)
      · have hwhole : moved = content := by
          rw [eq_put_of_write hwrite] at hmoved
          exact eq_of_hasFile_put rfl hmoved
        replace hfile := hasFile_of_erase hfile
        by_cases hplace : (spot t₁ other).key = (spot t₁ path).key
        · rw [hspot, hspot] at hplace
          have hheld : held = moved := by
            refine eq_of_hasFile_put ?_ hfile
            rw [hspot, hspot, hplace]
          exact .inr ⟨hplace.symm, hheld.trans hwhole, .head _⟩
        · exact .inl ((hasFile_of_write hne hwrite).mp ((hasFile_put_iff hplace).mp hfile))

/-- Wherever the save of a cache file stops: what a cache file holds it held before, or it is the
whole content. -/
theorem hasFile_of_performs_saveSteps (hother : CachePath other)
    (h : Performs t (CacheFiles.saveSteps path content) begun t')
    (hfile : HasFile t' other held) :
    HasFile t other held ∨ (SamePlace t path other ∧ held = content ∧
      .write (CacheFiles.draft path) content ∈ begun) := by
  rw [CacheFiles.saveSteps] at h
  rcases performs_append h with hcreate | ⟨t₁, left, right, hcreate, hdraft, rfl⟩
  · exact .inl ((moreFolders_of_performs hcreate).hasFile_iff.mp hfile)
  · have hmore := moreFolders_of_performs hcreate
    rcases hasFile_of_performs_draft hother hdraft hfile with hbefore | ⟨hplace, hheld, hbegun⟩
    · exact .inl (hmore.hasFile_iff.mp hbefore)
    · exact .inr ⟨(samePlace_of_performs hcreate).mp hplace, hheld,
        List.mem_append_right _ hbegun⟩

end Save

end HostFleet.Proofs
