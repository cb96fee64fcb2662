import HostFleet.Machine.Kernel
import HostFleet.Proofs.KeptFolders
import HostFleet.Proofs.SavedCache

/-!
# Saves that race

Several saves to one path, each of another process, take their steps side by side: they make the
folder, open and empty the draft, write to it piece by piece and move it to its place. All of them
use one draft. As long as no two of them are writing at a time, a reader finds what was there
before or the whole of what one of them saves. Two that write at the same time can show it any
front part of what one of them saves: one has its draft complete, the other empties it and begins
to write, and the first one moves it.
-/

namespace HostFleet.Proofs
open Std Relation

/-- How far a save is. An open draft is told by the place where it is by now, if there is one
still. -/
inductive Progress where
  | starting
  | ready
  | writing (place : Option Place) (written rest : Bytes)
  | saved
  | stopped
  deriving DecidableEq

namespace Progress

def isWriting : Progress → Bool
  | .writing .. => true
  | _ => false

/-- Where an open file is after a move: it goes with the file that is moved, and it is nowhere when
another file took its place. -/
def follow (source target : Place) : Progress → Progress
  | .writing place written rest =>
    let place := place.bind fun p =>
      if p = source then some target else if p = target then none else some p
    .writing place written rest
  | s => s

@[simp] lemma isWriting_follow (source target : Place) (s : Progress) :
    (s.follow source target).isWriting = s.isWriting := by
  cases s <;> rfl

end Progress

/-- Saves to one path, with the tree in which they take place. -/
structure Race (ι : Type) where
  tree : FileTree
  progress : ι → Progress

def Race.start {ι : Type} (t : FileTree) : Race ι := ⟨t, fun _ => .starting⟩

/-- No two saves are writing. -/
def OneWrites {ι : Type} (w : Race ι) : Prop :=
  ∀ i j, (w.progress i).isWriting = true → (w.progress j).isWriting = true → i = j

/-- The steps that make the folder of a path. -/
def folderSteps (path : String) : List FileStep := (Path.parent? path).toList.map .create

/-- The tree after a piece was written through an open file. -/
def writeOpen (t : FileTree) (place : Option Place) (offset : Nat) (piece : Bytes) : FileTree :=
  match place with
  | none => t
  | some p =>
    match t.node? p with
    | some (.file old) => t.put p (.file (Machine.Kernel.overwrite old offset piece))
    | _ => t

/-- One step of one of the saves. A save may stop instead of any of them, and folders may be left
behind then. -/
inductive RaceStep {ι : Type} [DecidableEq ι] (path : String) (content : ι → Bytes) (w : Race ι) :
    Race ι → Prop where
  | create {i : ι} {t' : FileTree} (hi : w.progress i = .starting)
    (h : w.tree.perform (folderSteps path) = (t', none)) :
    RaceStep path content w ⟨t', Function.update w.progress i .ready⟩
  | openDraft {i : ι} {t' : FileTree} (hi : w.progress i = .ready)
    (h : w.tree.write (CacheFiles.draft path) [] = .ok t') :
    RaceStep path content w ⟨t', Function.update w.progress i
      (.writing (some (spot w.tree (CacheFiles.draft path))) [] (content i))⟩
  | write {i : ι} {place : Option Place} {written piece rest : Bytes}
    (hi : w.progress i = .writing place written (piece ++ rest)) :
    RaceStep path content w ⟨writeOpen w.tree place written.length piece,
      Function.update w.progress i (.writing place (written ++ piece) rest)⟩
  | rename {i : ι} {place : Option Place} {written : Bytes} {t' : FileTree}
    (hi : w.progress i = .writing place written [])
    (h : w.tree.rename (CacheFiles.draft path) path = .ok t') :
    RaceStep path content w ⟨t', Function.update (fun j => (w.progress j).follow
      (spot w.tree (CacheFiles.draft path)) (spot w.tree path)) i .saved⟩
  | stop (i : ι) (hi : w.progress i ≠ .saved) :
    RaceStep path content w ⟨w.tree, Function.update w.progress i .stopped⟩
  | stopCreating {i : ι} {t' : FileTree} (hi : w.progress i = .starting)
    (h : MoreFolders w.tree t') :
    RaceStep path content w ⟨t', Function.update w.progress i .stopped⟩

/-- A step after which no two saves are writing. -/
def TurnStep {ι : Type} [DecidableEq ι] (path : String) (content : ι → Bytes) (w w' : Race ι) :
    Prop :=
  RaceStep path content w w' ∧ OneWrites w'

/-! ### Steps of a save -/

section Steps

variable {t t' : FileTree} {path : String} {content piece : Bytes} {p : Place}

/-- A piece is written after what was written before. -/
lemma writeOpen_of_file (h : t.node? p = some (.file content)) :
    writeOpen t (some p) content.length piece = t.put p (.file (content ++ piece)) := by
  have hdrop : content.drop (content.length + piece.length) = [] :=
    List.drop_eq_nil_of_le (Nat.le_add_right ..)
  rw [writeOpen, h]
  simp [Machine.Kernel.overwrite, hdrop]

/-- A save succeeds just when its folder is made, its draft is written, and the draft is moved. -/
lemma perform_saveSteps_iff : t.perform (CacheFiles.saveSteps path content) = (t', none) ↔
    ∃ t₁ t₂, t.perform (folderSteps path) = (t₁, none) ∧
      t₁.write (CacheFiles.draft path) content = .ok t₂ ∧
      t₂.rename (CacheFiles.draft path) path = .ok t' := by
  rw [CacheFiles.saveSteps, perform_append, folderSteps]
  constructor
  · rintro ⟨t₁, hcreate, hrest⟩
    obtain ⟨t₂, hwrite, hrest⟩ := perform_cons.mp hrest
    obtain ⟨t₃, hrename, hnil⟩ := perform_cons.mp hrest
    cases hnil
    exact ⟨t₁, t₂, hcreate, step_eq_write hwrite, step_eq_rename hrename⟩
  · rintro ⟨t₁, t₂, hcreate, hwrite, hrename⟩
    exact ⟨t₁, hcreate, perform_cons.mpr ⟨t₂, step_write_iff.mpr hwrite,
      perform_cons.mpr ⟨t', step_rename_iff.mpr hrename, rfl⟩⟩⟩

/-- A folder that one save made is there for the next one. -/
lemma perform_folderSteps_again (h : t.perform (folderSteps path) = (t', none)) :
    t'.perform (folderSteps path) = (t', none) := by
  rw [folderSteps] at h ⊢
  cases hparent : Path.parent? path with
  | none => rfl
  | some folder =>
    rw [hparent] at h
    obtain ⟨t₁, hmade, hnil⟩ := perform_cons.mp h
    cases hnil
    exact perform_cons.mpr ⟨t', makeFolders_again hmade, rfl⟩

lemma moreFolders_of_folderSteps (h : t.perform (folderSteps path) = (t', none)) :
    MoreFolders t t' := by
  obtain ⟨begun, hperforms⟩ := exists_performs t (folderSteps path)
  rw [h] at hperforms
  exact moreFolders_of_performs hperforms

/-- A cache file is not read as a folder. -/
lemma endsInFolder_of_cachePath (hpath : CachePath path) : Path.endsInFolder path = false := by
  obtain ⟨front, rfl⟩ := hpath
  simp [Path.endsInFolder, Path.trim, String.toList_append]

lemma spot_draft_ne (hpath : CachePath path) (t : FileTree) :
    spot t (CacheFiles.draft path) ≠ spot t path :=
  fun heq => key_ne_draft (t := t) hpath path (congrArg Place.key heq.symm)

/-- A draft is not read as a folder. -/
lemma endsInFolder_draft (path : String) : Path.endsInFolder (CacheFiles.draft path) = false := by
  simp [CacheFiles.draft, Path.endsInFolder, Path.trim, String.toList_append]

/-- Where the file and its draft can be written, a save succeeds. -/
lemma exists_saved {t₁ t₂ t₃ : FileTree} (hpath : CachePath path)
    (hmade : t.perform (folderSteps path) = (t₁, none))
    (hdraft : t₁.write (CacheFiles.draft path) content = .ok t₂)
    (hfile : t₁.write path content = .ok t₃) :
    ∃ t', t.perform (CacheFiles.saveSteps path content) = (t', none) := by
  have hkeeps := keepsFolders_of_write hdraft
  have hread : t₂.read (CacheFiles.draft path) = .ok content := by
    rw [read_eq_ok_iff, hkeeps.spot_eq]
    exact ⟨hkeeps.locate (write_eq_ok_iff.mp hdraft).1, hasFile_of_write_self hdraft,
      endsInFolder_draft path⟩
  have hwrite := write_of_keepsFolders hkeeps (keepsFolders_before_write hdraft) hfile content
  exact ⟨_, perform_saveSteps_iff.mpr ⟨t₁, t₂, hmade, hdraft,
    (rename_eq_ok_iff (spot_draft_ne hpath t₂)).mpr ⟨content, _, hread, hwrite, rfl⟩⟩⟩

end Steps

/-! ### Saves that take turns -/

section Turns

variable {ι : Type} {path : String} {content : ι → Bytes} {t t' : FileTree} {w w' : Race ι}
  {i : ι} {place : Option Place} {written rest : Bytes}

/-- What holds as long as no two saves are writing: cache files are whole, and the draft holds what
the one save that is writing has written. -/
structure WholeFiles (path : String) (content : ι → Bytes) (t : FileTree) (w : Race ι) : Prop where
  working : w.tree.working = t.working
  held : ∀ held, HasFile w.tree path held → HasFile t path held ∨ ∃ i, held = content i
  draft : ∀ i place written rest, w.progress i = .writing place written rest →
    written ++ rest = content i ∧ place = some (spot t (CacheFiles.draft path)) ∧
      HasFile w.tree (CacheFiles.draft path) written

namespace WholeFiles

lemma start (path : String) (content : ι → Bytes) (t : FileTree) :
    WholeFiles path content t (.start t) :=
  ⟨rfl, fun _ => .inl, fun _ _ _ _ hi => by cases hi⟩

lemma spot_eq (h : WholeFiles path content t w) (p : String) : spot w.tree p = spot t p := by
  rw [spot, h.working, spot]

variable [DecidableEq ι]

/-- A save that ends, or that has not begun to write, changes no file. -/
lemma of_moreFolders {s : Progress} (h : WholeFiles path content t w) (hmore : MoreFolders w.tree t')
    (hs : s.isWriting = false) :
    WholeFiles path content t ⟨t', Function.update w.progress i s⟩ := by
  refine ⟨hmore.working.trans h.working, fun held hheld => h.held held (hmore.hasFile_iff.mp hheld),
    fun j place written rest hj => ?_⟩
  dsimp only at hj
  by_cases hji : j = i
  · rw [hji, Function.update_self] at hj
    rw [hj] at hs
    cases hs
  · rw [Function.update_of_ne hji] at hj
    obtain ⟨hcontent, hplace, hfile⟩ := h.draft j place written rest hj
    exact ⟨hcontent, hplace, hmore.hasFile_iff.mpr hfile⟩

/-- The draft is opened or written to by the one save that is writing. -/
lemma of_put (hpath : CachePath path) (h : WholeFiles path content t w)
    (hfolder : w.tree.node? (spot t (CacheFiles.draft path)) ≠ some .folder)
    (hcontent : written ++ rest = content i) (hw : w' =
      ⟨w.tree.put (spot t (CacheFiles.draft path)) (.file written), Function.update w.progress i
        (.writing (some (spot t (CacheFiles.draft path))) written rest)⟩)
    (hone : OneWrites w') : WholeFiles path content t w' := by
  have hi : w'.progress i = .writing (some (spot t (CacheFiles.draft path))) written rest := by
    rw [hw]
    exact Function.update_self ..
  have htree : w'.tree = w.tree.put (spot t (CacheFiles.draft path)) (.file written) := by rw [hw]
  have hworking : w'.tree.working = t.working := by
    rw [htree]
    exact h.working
  refine ⟨hworking, fun held hheld => h.held held ?_, fun j place' written' rest' hj => ?_⟩
  · rw [htree] at hheld
    refine (hasFile_put_iff ?_).mp hheld
    rw [h.spot_eq]
    exact key_ne_draft hpath path
  · obtain rfl : j = i := hone j i (by rw [hj]; rfl) (by rw [hi]; rfl)
    rw [hi] at hj
    cases hj
    refine ⟨hcontent, rfl, ?_⟩
    rw [HasFile, htree, spot_put, h.spot_eq]
    exact node?_put (ne_nil_of_node?_ne hfolder) rfl

/-- The draft that is moved is the whole of what is saved. -/
lemma of_rename (h : WholeFiles path content t w) (hone : OneWrites w)
    (hi : w.progress i = .writing place written [])
    (hrename : w.tree.rename (CacheFiles.draft path) path = .ok t') :
    WholeFiles path content t ⟨t', Function.update (fun j => (w.progress j).follow
      (spot w.tree (CacheFiles.draft path)) (spot w.tree path)) i .saved⟩ := by
  obtain ⟨hcontent, -, hfile⟩ := h.draft i place written [] hi
  rw [List.append_nil] at hcontent
  -- The one that was writing is done, so there is none left.
  have hdone : ∀ j, (Function.update (fun j => (w.progress j).follow
      (spot w.tree (CacheFiles.draft path)) (spot w.tree path)) i .saved j).isWriting = false := by
    intro j
    by_cases hji : j = i
    · rw [hji, Function.update_self]
      rfl
    · rw [Function.update_of_ne hji, Progress.isWriting_follow]
      exact Bool.eq_false_of_not_eq_true fun hj => hji (hone j i hj (by rw [hi]; rfl))
  have hdraft : ∀ j place written rest, Function.update (fun j => (w.progress j).follow
      (spot w.tree (CacheFiles.draft path)) (spot w.tree path)) i .saved j ≠
        .writing place written rest := by
    intro j place written rest hj
    have hwriting := hdone j
    rw [hj] at hwriting
    cases hwriting
  obtain ⟨moved, hmoved, rfl | rfl⟩ := eq_of_rename hrename
  · exact ⟨h.working, h.held, fun j _ _ _ hj => (hdraft j _ _ _ hj).elim⟩
  · refine ⟨h.working, fun held hheld => ?_, fun j _ _ _ hj => (hdraft j _ _ _ hj).elim⟩
    have hheld' : held = moved := eq_of_hasFile_put rfl (hasFile_of_erase hheld)
    exact .inr ⟨i, by rw [hheld', hasFile_unique hmoved hfile, hcontent]⟩

/-- A step after which no two saves are writing keeps cache files whole. -/
lemma of_turnStep (hpath : CachePath path) (h : WholeFiles path content t w) (hone : OneWrites w)
    (hstep : TurnStep path content w w') : WholeFiles path content t w' := by
  obtain ⟨hstep, hone'⟩ := hstep
  cases hstep with
  | create hi hmade => exact h.of_moreFolders (moreFolders_of_folderSteps hmade) rfl
  | openDraft hi hwrite =>
    obtain ⟨-, hfolder, -, rfl⟩ := write_eq_ok_iff.mp hwrite
    rw [h.spot_eq] at hfolder hone' ⊢
    exact h.of_put hpath hfolder (List.nil_append _) rfl hone'
  | @write i place written piece rest hi =>
    obtain ⟨hcontent, rfl, hfile⟩ := h.draft i place written (piece ++ rest) hi
    rw [HasFile, h.spot_eq] at hfile
    refine h.of_put hpath ?_ ?_ (by rw [writeOpen_of_file hfile]) hone'
    · simp [hfile]
    · rw [List.append_assoc, hcontent]
  | rename hi hrename => exact h.of_rename hone hi hrename
  | stop i hi => exact h.of_moreFolders (.refl _) rfl
  | stopCreating hi hmore => exact h.of_moreFolders hmore rfl

end WholeFiles

lemma whole_of_run [DecidableEq ι] (hpath : CachePath path)
    (hrun : ReflTransGen (TurnStep path content) (.start t) w) :
    OneWrites w ∧ WholeFiles path content t w := by
  induction hrun with
  | refl => exact ⟨fun _ _ hi => (by cases hi), .start path content t⟩
  | tail _ hstep ih => exact ⟨hstep.2, ih.2.of_turnStep hpath ih.1 hstep⟩

end Turns

/-! ### One save by itself -/

section Alone

variable {ι : Type} [DecidableEq ι] {path : String} {content : ι → Bytes} {t t' : FileTree}
  {w w' : Race ι} {i : ι} {part rest : Bytes}

/-- What the tree is when a save that has it for itself is that far. -/
def Alone (path : String) (content : Bytes) (t : FileTree) : Progress → FileTree → Prop
  | .starting, t' => t' = t
  | .ready, t' => t.perform (folderSteps path) = (t', none)
  | .writing place written rest, t' => written ++ rest = content ∧ ∃ t₁,
    t.perform (folderSteps path) = (t₁, none) ∧
      place = some (spot t₁ (CacheFiles.draft path)) ∧
      t₁.write (CacheFiles.draft path) written = .ok t'
  | .saved, t' => t.perform (CacheFiles.saveSteps path content) = (t', none)
  | .stopped, _ => True

/-- A step of the only save there is. -/
lemma alone_of_step [Subsingleton ι] (h : Alone path (content i) t (w.progress i) w.tree)
    (hstep : RaceStep path content w w') :
    Alone path (content i) t (w'.progress i) w'.tree := by
  cases hstep with
  | @create j t' hj hmade =>
    obtain rfl := Subsingleton.elim i j
    rw [hj] at h
    obtain rfl : w.tree = t := h
    dsimp only
    rw [Function.update_self]
    exact hmade
  | @openDraft j t' hj hwrite =>
    obtain rfl := Subsingleton.elim i j
    rw [hj] at h
    dsimp only
    rw [Function.update_self]
    exact ⟨List.nil_append _, w.tree, h, rfl, hwrite⟩
  | @write j place written piece rest hj =>
    obtain rfl := Subsingleton.elim i j
    rw [hj] at h
    obtain ⟨hcontent, t₁, hmade, rfl, hwrite⟩ := h
    dsimp only
    rw [Function.update_self, writeOpen_of_file (node?_of_write hwrite), eq_put_of_write hwrite,
      put_put]
    exact ⟨by rw [List.append_assoc, hcontent], t₁, hmade, rfl, write_other hwrite _⟩
  | @rename j place written t' hj hrename =>
    obtain rfl := Subsingleton.elim i j
    rw [hj] at h
    obtain ⟨hcontent, t₁, hmade, rfl, hwrite⟩ := h
    rw [List.append_nil] at hcontent
    dsimp only
    rw [Function.update_self]
    exact perform_saveSteps_iff.mpr ⟨t₁, w.tree, hmade, hcontent ▸ hwrite, hrename⟩
  | stop j hj =>
    obtain rfl := Subsingleton.elim i j
    dsimp only
    rw [Function.update_self]
    trivial
  | @stopCreating j t' hj hmore =>
    obtain rfl := Subsingleton.elim i j
    dsimp only
    rw [Function.update_self]
    trivial

lemma exists_created (content : ι → Bytes) (hi : w.progress i = .starting)
    (hmade : w.tree.perform (folderSteps path) = (t', none)) :
    ∃ w', RaceStep path content w w' ∧ w'.tree = t' ∧ w'.progress i = .ready ∧
      ∀ k, k ≠ i → w'.progress k = w.progress k :=
  ⟨_, .create hi hmade, rfl, Function.update_self .., fun _ hk => Function.update_of_ne hk ..⟩

/-- A save that is ready opens the draft and writes a part of its content. -/
lemma exists_written (hi : w.progress i = .ready) (hpart : part ++ rest = content i)
    (hwrite : w.tree.write (CacheFiles.draft path) part = .ok t') :
    ∃ w', ReflTransGen (RaceStep path content) w w' ∧ w'.tree = t' ∧
      (∃ place, w'.progress i = .writing place part rest) ∧
      ∀ k, k ≠ i → w'.progress k = w.progress k := by
  have hopen := write_other hwrite []
  obtain ⟨w₁, hstep, htree, hprogress⟩ : ∃ w₁, RaceStep path content w w₁ ∧
      w₁.tree = w.tree.put (spot w.tree (CacheFiles.draft path)) (.file []) ∧
      w₁.progress = Function.update w.progress i
        (.writing (some (spot w.tree (CacheFiles.draft path))) [] (content i)) :=
    ⟨_, .openDraft hi hopen, rfl, rfl⟩
  have hi₁ : w₁.progress i =
      .writing (some (spot w.tree (CacheFiles.draft path))) [] (part ++ rest) := by
    rw [hprogress, Function.update_self, hpart]
  refine ⟨_, (ReflTransGen.single hstep).tail (.write hi₁), ?_, ⟨_, Function.update_self ..⟩, ?_⟩
  · dsimp only
    rw [htree, writeOpen_of_file (node?_of_write hopen), put_put, List.nil_append]
    exact (eq_put_of_write hwrite).symm
  · intro k hk
    dsimp only
    rw [Function.update_of_ne hk, hprogress, Function.update_of_ne hk]

/-- The steps of a save, taken one by one, do what the save does. -/
theorem saves_alone_iff [Subsingleton ι] :
    (∃ w, ReflTransGen (RaceStep path content) (.start t) w ∧ w.progress i = .saved ∧
      w.tree = t') ↔ t.perform (CacheFiles.saveSteps path (content i)) = (t', none) := by
  constructor
  · rintro ⟨w, hrun, hi, rfl⟩
    have halone : Alone path (content i) t (w.progress i) w.tree := by
      clear hi
      induction hrun with
      | refl => rfl
      | tail _ hstep ih => exact alone_of_step ih hstep
    rw [hi] at halone
    exact halone
  · intro h
    obtain ⟨t₁, t₂, hmade, hwrite, hrename⟩ := perform_saveSteps_iff.mp h
    obtain ⟨w₁, hcreate, rfl, hready, -⟩ :=
      exists_created content (w := .start t) (i := i) rfl hmade
    obtain ⟨w₂, hrun, rfl, ⟨place, hi⟩, -⟩ :=
      exists_written hready (List.append_nil _) hwrite
    refine ⟨_, ((ReflTransGen.single hcreate).trans hrun).tail (.rename hi hrename), ?_, rfl⟩
    dsimp only
    rw [Function.update_self]

end Alone

/-! ### Two saves at a time -/

section Together

variable {ι : Type} [DecidableEq ι] {path : String} {content : ι → Bytes} {t t' : FileTree}
  {w : Race ι} {i j : ι} {part rest : Bytes}

/-- Where one save can succeed, a reader can find any front part of what another one saves. -/
lemma exists_part (hpath : CachePath path) (hij : i ≠ j)
    (hsave : t.perform (CacheFiles.saveSteps path (content i)) = (t', none))
    (hpart : part ++ rest = content j) :
    ∃ w, ReflTransGen (RaceStep path content) (.start t) w ∧ w.tree.read path = .ok part := by
  obtain ⟨t₁, t₂, hmade, hwrite, hrename⟩ := perform_saveSteps_iff.mp hsave
  obtain ⟨w₁, hcreate, rfl, hi₁, hothers₁⟩ :=
    exists_created content (w := .start t) (i := i) rfl hmade
  obtain ⟨w₂, hcreate', htree₂, hj₂, hothers₂⟩ := exists_created content (i := j)
    (by rw [hothers₁ j hij.symm]; rfl) (perform_folderSteps_again hmade)
  rw [← hothers₂ i hij] at hi₁
  rw [← htree₂] at hwrite
  -- One of them writes all of its draft, and the other one empties it and writes a part.
  obtain ⟨w₃, hwritten, rfl, ⟨place, hi₃⟩, hothers₃⟩ :=
    exists_written hi₁ (List.append_nil _) hwrite
  rw [← hothers₃ j hij.symm] at hj₂
  obtain ⟨w₄, hwritten', htree₄, -, hothers₄⟩ := exists_written hj₂ hpart (write_again hwrite part)
  rw [← hothers₄ i hij] at hi₃
  have hpartial := write_other hwrite part
  rw [← htree₄] at hpartial
  -- What is moved is the part.
  have hfile := hasFile_of_write_self hpartial
  obtain ⟨t₅, hrename₅⟩ := exists_rename (spot_draft_ne hpath _)
    ((keepsFolders_before_write hwrite).trans (keepsFolders_of_write hpartial))
    ((keepsFolders_before_write hpartial).trans (keepsFolders_of_write hwrite)) hrename hfile
  refine ⟨_, .tail ?_ (.rename hi₃ hrename₅), ?_⟩
  · exact (ReflTransGen.single hcreate).tail hcreate' |>.trans hwritten |>.trans hwritten'
  · exact read_of_rename (key_ne_draft hpath path).symm (endsInFolder_of_cachePath hpath) hfile
      hrename₅

end Together

/-! ### A cache in an empty folder -/

/-- Under a short name a file can be put into an empty folder. -/
lemma exists_write_name (name : String) (hslash : '/' ∉ name.toList)
    (hlength : 2 ≤ name.toList.length) (hzero : name.contains '\x00' = false) (hup : name ≠ "..")
    (hshort : name.utf8ByteSize ≤ 255) (content : Bytes) :
    ∃ t, ({} : FileTree).write name content = .ok t := by
  have hempty : name.isEmpty = false := by
    rw [Bool.eq_false_iff, ne_eq, String.isEmpty_iff]
    rintro rfl
    exact absurd hlength (by decide)
  have habsolute : Path.isAbsolute name = false := by
    rw [Path.isAbsolute, Bool.eq_false_iff, ne_eq, ← String.startsWith_toSlice,
      String.Slice.startsWith_string_iff, String.copy_toSlice]
    exact fun hstart => hslash (hstart.subset (by decide))
  have hends : name.endsWith "/" = false := by
    rw [Bool.eq_false_iff, ne_eq, ← String.endsWith_toSlice, String.Slice.endsWith_string_iff,
      String.copy_toSlice]
    exact fun hend => hslash (hend.subset (by decide))
  have hmax : ¬ FileTree.maxPath < name.utf8ByteSize := by
    rw [FileTree.maxPath]
    omega
  have hp : ({} : FileTree).locate name = .ok [name] := by
    rw [FileTree.locate, hzero, hempty, if_neg hmax, habsolute, parts_name hslash hlength]
    simp [FileTree.walk, node?_nil, hup, hshort]
  refine ⟨_, write_eq_ok_iff.mpr ⟨locate_eq hp ▸ hp, ?_, hends, rfl⟩⟩
  rw [← locate_eq hp, node?_eq (List.cons_ne_nil _ _)]
  simp

/-- The name of the data file when no project is named. -/
def loneName : String := "cache_1.0.5.json"

lemma cachePath_loneName : CachePath loneName := ⟨"cache_1.0.5", by decide⟩

lemma perform_loneName (content : Bytes) :
    (({} : FileTree).perform (CacheFiles.saveSteps loneName content)).2 = none := by
  obtain ⟨t₂, hdraft⟩ := exists_write_name (CacheFiles.draft loneName) (by decide)
    (by decide) (by simp [CacheFiles.draft, loneName]) (by decide) (by decide) content
  obtain ⟨t₃, hfile⟩ := exists_write_name loneName (by decide) (by decide)
    (by simp [loneName]) (by decide) (by decide) content
  have hparent : Path.parent? loneName = some "" := by decide
  have hmade : ({} : FileTree).perform (folderSteps loneName) = ({}, none) := by
    rw [folderSteps, hparent]
    rfl
  obtain ⟨t', hsave⟩ := exists_saved cachePath_loneName hmade hdraft hfile
  rw [hsave]

/-- Data files are not empty. -/
lemma savedData_ne_nil (i : Inventory) (time : Instant) : savedData i time ≠ [] := by
  intro hnil
  have hread := read?_stamped (v := ⟨time, i.store.toSnapshot⟩) (plain_snapshot _)
  have hnone : Json.read? [] = none := by cbv
  rw [← savedData, hnil, hnone] at hread
  cases hread

/-! ### What a reader finds -/

/-- Saves to one cache file. As long as no two are writing at a time, a reader finds what was there
before or the whole of what one of them saves. Where one of them can succeed and another one may
write at the same time, it can find any front part of what that one saves. -/
theorem read_of_racing_saves {ι : Type} [DecidableEq ι] {path : String} (hpath : CachePath path)
    (content : ι → Bytes) (t : FileTree) :
    (∀ w held, ReflTransGen (TurnStep path content) (.start t) w → w.tree.read path = .ok held →
      HasFile t path held ∨ ∃ i, held = content i) ∧
    ∀ i j, i ≠ j → (t.perform (CacheFiles.saveSteps path (content i))).2 = none →
      ∀ part, part <+: content j → ∃ w, ReflTransGen (RaceStep path content) (.start t) w ∧
        w.tree.read path = .ok part := by
  constructor
  · intro w held hrun hread
    exact (whole_of_run hpath hrun).2.held held (hasFile_of_read hread)
  · rintro i j hij hsave part ⟨rest, hpart⟩
    exact exists_part hpath hij (Prod.ext rfl hsave) hpart

/-- An inventory without hosts and one with some are saved. -/
def twoSaves (i : Bool) : Bytes :=
  savedData (if i then fetched ringSnapshot else .new default) default

/-- A reader finds an empty file, which neither of two saves holds. -/
theorem read_of_racing_saves_of_two : CachePath loneName ∧
    (({} : FileTree).perform (CacheFiles.saveSteps loneName (twoSaves true))).2 = none ∧
    (∀ held, ¬ HasFile {} loneName held) ∧ (∀ i, twoSaves i ≠ []) ∧
    ∃ w, ReflTransGen (RaceStep loneName twoSaves) (.start {}) w ∧
      w.tree.read loneName = .ok [] := by
  have hsave := perform_loneName (twoSaves true)
  refine ⟨cachePath_loneName, hsave, fun held hheld => ?_, fun i => savedData_ne_nil _ _, ?_⟩
  · have hnode := (hasFile_iff.mp hheld).2
    simp at hnode
  · exact (read_of_racing_saves cachePath_loneName twoSaves {}).2 true false (by decide) hsave []
      List.nil_prefix

end HostFleet.Proofs
