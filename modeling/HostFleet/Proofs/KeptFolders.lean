import HostFleet.Proofs.InterruptedSaves

/-!
# Folders that are kept

As long as no folder is lost, every path that led somewhere leads there again. So a step on files
that succeeded once succeeds again, and with another content: what it needs are the folders on the
way and that the place itself is none.
-/

namespace HostFleet.Proofs
open Std

section Nodes

variable {t t' t'' : FileTree} {path : String} {content : Bytes} {p q : Place} {n : Node}

lemma node?_nil : t.node? [] = some .folder := rfl

lemma node?_eq (hp : p ≠ []) : t.node? p = t.nodes[p.key]? := by
  rw [FileTree.node?, if_neg (by simpa using hp)]

lemma node?_put (hq : q ≠ []) (h : q.key = p.key) : (t.put p n).node? q = some n := by
  rw [node?_eq hq, FileTree.put, ExtTreeMap.getElem?_insert, if_pos (by simp [h])]

lemma node?_put_of_ne (h : q.key ≠ p.key) : (t.put p n).node? q = t.node? q := by
  by_cases hq : q = []
  · rw [hq, node?_nil, node?_nil]
  · rw [node?_eq hq, node?_eq hq, FileTree.put, ExtTreeMap.getElem?_insert,
      if_neg (by simpa using h.symm)]

lemma node?_erase_of_ne {key : String} (h : q.key ≠ key) :
    FileTree.node? { t with nodes := t.nodes.erase key } q = t.node? q := by
  by_cases hq : q = []
  · rw [hq, node?_nil, node?_nil]
  · rw [node?_eq hq, node?_eq hq, ExtTreeMap.getElem?_erase, if_neg (by simpa using h.symm)]

/-- What is put at a place last stays there. -/
lemma put_put (t : FileTree) (p : Place) (m n : Node) : (t.put p m).put p n = t.put p n := by
  simp only [FileTree.put]
  congr 1
  ext key : 1
  simp only [ExtTreeMap.getElem?_insert]
  split <;> rfl

/-- A place with a file is not the root. -/
lemma ne_nil_of_node?_ne (h : t.node? p ≠ some .folder) : p ≠ [] := by
  rintro rfl
  exact h node?_nil

lemma hasFile_unique {content' : Bytes} (h : HasFile t path content)
    (h' : HasFile t path content') : content = content' := by
  rw [HasFile] at h h'
  rw [h] at h'
  exact Node.file.inj (Option.some.inj h')

lemma node?_ne_of_key_eq (h : t.node? p ≠ some .folder) (hq : q ≠ []) (hkey : q.key = p.key) :
    t.node? q ≠ some .folder := by
  rw [node?_eq hq, hkey, ← node?_eq (ne_nil_of_node?_ne h)]
  exact h

end Nodes

/-- Wherever there was a folder there is one, and relative paths keep their beginning. -/
structure KeepsFolders (t t' : FileTree) : Prop where
  working : t'.working = t.working
  folder : ∀ p, t.node? p = some .folder → t'.node? p = some .folder

section KeepsFolders

variable {t t' t'' : FileTree} {path : String} {content : Bytes} {p : Place} {n : Node}

namespace KeepsFolders

lemma refl (t : FileTree) : KeepsFolders t t := ⟨rfl, fun _ => id⟩

lemma trans (h : KeepsFolders t t') (h' : KeepsFolders t' t'') : KeepsFolders t t'' :=
  ⟨h'.working.trans h.working, fun p hp => h'.folder p (h.folder p hp)⟩

lemma spot_eq (h : KeepsFolders t t') (path : String) : spot t' path = spot t path := by
  rw [spot, h.working, spot]

lemma walk (h : KeepsFolders t t') {place : Place} {parts : List String}
    (hp : t.walk place parts = .ok p) : t'.walk place parts = .ok p := by
  induction parts generalizing place with
  | nil => exact hp
  | cons part rest ih =>
    rw [FileTree.walk] at hp ⊢
    split at hp
    · cases hp
    · cases hp
    · next hfolder =>
      rw [h.folder place hfolder]
      dsimp only
      split at hp
      · cases hp
      · next hlength =>
        rw [if_neg hlength]
        split at hp
        · next hup =>
          rw [if_pos hup]
          exact ih hp
        · next hup =>
          rw [if_neg hup]
          exact ih hp

/-- A path leads where it led. -/
lemma locate (h : KeepsFolders t t') (hp : t.locate path = .ok p) : t'.locate path = .ok p := by
  rw [FileTree.locate] at hp ⊢
  rw [h.working]
  split at hp
  · cases hp
  · next hzero =>
    rw [if_neg hzero]
    split at hp
    · cases hp
    · next hempty =>
      rw [if_neg hempty]
      split at hp
      · cases hp
      · next hlength =>
        rw [if_neg hlength]
        exact h.walk hp

end KeepsFolders

/-- Something is put where there is no folder. -/
lemma keepsFolders_put (hp : t.node? p ≠ some .folder) : KeepsFolders t (t.put p n) := by
  refine ⟨rfl, fun q hq => ?_⟩
  by_cases hnil : q = []
  · rw [hnil, node?_nil]
  · have hkey : q.key ≠ p.key := fun hkey => node?_ne_of_key_eq hp hnil hkey hq
    rw [node?_put_of_ne hkey]
    exact hq

/-- A file that was put somewhere is no folder. -/
lemma keepsFolders_of_put : KeepsFolders (t.put p (.file content)) t := by
  refine ⟨rfl, fun q hq => ?_⟩
  by_cases hnil : q = []
  · rw [hnil, node?_nil]
  · by_cases hkey : q.key = p.key
    · rw [node?_put hnil hkey] at hq
      cases hq
    · rwa [node?_put_of_ne hkey] at hq

/-- What is at a place is taken away, and it is no folder. -/
lemma keepsFolders_erase (hp : t.node? p ≠ some .folder) :
    KeepsFolders t { t with nodes := t.nodes.erase p.key } := by
  refine ⟨rfl, fun q hq => ?_⟩
  by_cases hnil : q = []
  · rw [hnil, node?_nil]
  · have hkey : q.key ≠ p.key := fun hkey => node?_ne_of_key_eq hp hnil hkey hq
    rw [node?_erase_of_ne hkey]
    exact hq

end KeepsFolders

/-! ### Steps that succeed -/

section Steps

variable {t t' : FileTree} {path source target : String} {content : Bytes}

/-- When a file can be moved to another place, and what becomes of the tree. -/
lemma rename_eq_ok_iff (hne : spot t source ≠ spot t target) : t.rename source target = .ok t' ↔
    ∃ content t₁, t.read source = .ok content ∧ t.write target content = .ok t₁ ∧
      t' = { t₁ with nodes := t₁.nodes.erase (spot t source).key } := by
  rw [FileTree.rename]
  constructor
  · intro h
    cases hread : t.read source with
    | error e =>
      rw [hread] at h
      cases h
    | ok content =>
      have hp := (read_eq_ok_iff.mp hread).1
      cases hwrite : t.write target content with
      | error e =>
        simp only [hread, hp, hwrite, bind, Except.bind] at h
        cases h
      | ok t₁ =>
        have hq := (write_eq_ok_iff.mp hwrite).1
        simp only [hread, hp, hwrite, hq, if_neg hne, bind, Except.bind] at h
        exact ⟨content, t₁, rfl, hwrite, (Except.ok.inj h).symm⟩
  · rintro ⟨content, t₁, hread, hwrite, rfl⟩
    have hp := (read_eq_ok_iff.mp hread).1
    have hq := (write_eq_ok_iff.mp hwrite).1
    simp only [hread, hp, hwrite, hq, if_neg hne, bind, Except.bind]

lemma keepsFolders_of_write (h : t.write path content = .ok t') : KeepsFolders t t' := by
  obtain ⟨-, hfolder, -, rfl⟩ := write_eq_ok_iff.mp h
  exact keepsFolders_put hfolder

lemma keepsFolders_before_write (h : t.write path content = .ok t') : KeepsFolders t' t := by
  obtain ⟨-, -, -, rfl⟩ := write_eq_ok_iff.mp h
  exact keepsFolders_of_put

lemma node?_of_write (h : t.write path content = .ok t') :
    t'.node? (spot t path) = some (.file content) := by
  obtain ⟨-, hfolder, -, rfl⟩ := write_eq_ok_iff.mp h
  exact node?_put (ne_nil_of_node?_ne hfolder) rfl

lemma hasFile_of_write_self (h : t.write path content = .ok t') : HasFile t' path content := by
  rw [HasFile, (keepsFolders_of_write h).spot_eq]
  exact node?_of_write h

/-- Where a file can be put, it can be put as long as the folders stay as they are, whatever it
holds. -/
lemma write_of_keepsFolders (h : KeepsFolders t t') (h' : KeepsFolders t' t)
    {t₁ : FileTree} (hwrite : t.write path content = .ok t₁) (content' : Bytes) :
    t'.write path content' = .ok (t'.put (spot t path) (.file content')) := by
  obtain ⟨hp, hfolder, hends, -⟩ := write_eq_ok_iff.mp hwrite
  rw [write_eq_ok_iff, h.spot_eq]
  exact ⟨h.locate hp, fun hnode => hfolder (h'.folder _ hnode), hends, rfl⟩

/-- What is written does not decide whether it can be written. -/
lemma write_other (h : t.write path content = .ok t') (content' : Bytes) :
    t.write path content' = .ok (t.put (spot t path) (.file content')) :=
  write_of_keepsFolders (.refl t) (.refl t) h content'

/-- A file can be written again, and then it holds what was written last. -/
lemma write_again (h : t.write path content = .ok t') (content' : Bytes) :
    t'.write path content' = .ok (t.put (spot t path) (.file content')) := by
  have hfile := hasFile_of_write_self h
  have hkeeps := keepsFolders_of_write h
  obtain ⟨hp, -, hends, rfl⟩ := write_eq_ok_iff.mp h
  refine write_eq_ok_iff.mpr ⟨hkeeps.locate hp, ?_, hends, ?_⟩
  · rw [HasFile] at hfile
    simp [hfile]
  · rw [spot_put, put_put]

/-- Where a file can be moved, another one can be, as long as the folders stay as they are. -/
lemma exists_rename (hne : spot t source ≠ spot t target) (h : KeepsFolders t t')
    (h' : KeepsFolders t' t) {t₁ : FileTree} (hrename : t.rename source target = .ok t₁)
    (hfile : HasFile t' source content) : ∃ t₂, t'.rename source target = .ok t₂ := by
  obtain ⟨moved, t₃, hread, hwrite, -⟩ := (rename_eq_ok_iff hne).mp hrename
  obtain ⟨hp, -, hends⟩ := read_eq_ok_iff.mp hread
  have hread' : t'.read source = .ok content := by
    rw [read_eq_ok_iff, h.spot_eq]
    exact ⟨h.locate hp, hfile, hends⟩
  have hne' : spot t' source ≠ spot t' target := by rwa [h.spot_eq, h.spot_eq]
  exact ⟨_, (rename_eq_ok_iff hne').mpr
    ⟨content, _, hread', write_of_keepsFolders h h' hwrite content, rfl⟩⟩

/-- A file that was moved is read at its new place. -/
lemma read_of_rename (hne : (spot t source).key ≠ (spot t target).key)
    (hends : Path.endsInFolder target = false) (hfile : HasFile t source content)
    (hrename : t.rename source target = .ok t') : t'.read target = .ok content := by
  have hplaces : spot t source ≠ spot t target := fun heq => hne (congrArg Place.key heq)
  obtain ⟨moved, t₁, hread, hwrite, rfl⟩ := (rename_eq_ok_iff hplaces).mp hrename
  obtain rfl : moved = content := hasFile_unique (read_eq_ok_iff.mp hread).2.1 hfile
  obtain ⟨hq, hfolder, -, rfl⟩ := write_eq_ok_iff.mp hwrite
  have hsource : (t.put (spot t target) (.file moved)).node? (spot t source) ≠ some .folder := by
    rw [HasFile] at hfile
    rw [node?_put_of_ne hne, hfile]
    simp
  have hkeeps := (keepsFolders_put (n := .file moved) hfolder).trans (keepsFolders_erase hsource)
  rw [read_eq_ok_iff, hkeeps.spot_eq]
  refine ⟨hkeeps.locate hq, ?_, hends⟩
  rw [HasFile, hkeeps.spot_eq, node?_erase_of_ne hne.symm]
  exact node?_put (ne_nil_of_node?_ne hfolder) rfl

lemma isFolder_iff : t.isFolder path = true ↔
    t.locate path = .ok (spot t path) ∧ t.node? (spot t path) = some .folder := by
  rw [FileTree.isFolder]
  cases hp : t.locate path with
  | error e => simp
  | ok p =>
    obtain rfl := locate_eq hp
    simp

/-- A folder that exists is not made again. -/
lemma makeFolders_of_isFolder (h : t.isFolder path = true) : t.makeFolders path = (t, none) := by
  obtain ⟨hp, hfolder⟩ := isFolder_iff.mp h
  have hmake : t.makeFolder path = .error .fileExists := by
    simp [FileTree.makeFolder, hp, hfolder, bind, Except.bind]
  rw [FileTree.makeFolders, hmake]
  simp [h]

lemma isFolder_of_makeFolder (h : t.makeFolder path = .ok t') : t'.isFolder path = true := by
  rw [FileTree.makeFolder] at h
  cases hp : t.locate path with
  | error e =>
    rw [hp] at h
    cases h
  | ok p =>
    obtain rfl := locate_eq hp
    simp only [hp, bind, Except.bind] at h
    split at h
    · cases h
    · next hnone =>
      obtain rfl := Except.ok.inj h
      have hnode : t.node? (spot t path) ≠ some .folder := by
        simp [hnone]
      rw [isFolder_iff, spot_put]
      exact ⟨(keepsFolders_put hnode).locate hp, node?_put (ne_nil_of_node?_ne hnode) rfl⟩

/-- The last one of the folders that were to be made is there. -/
lemma isFolder_of_makeEach {paths : List String} (h : t.makeEach (paths ++ [path]) = (t', none)) :
    t'.isFolder path = true := by
  induction paths generalizing t with
  | nil =>
    rw [List.nil_append, FileTree.makeEach] at h
    split at h
    · next t₁ hmade =>
      cases h
      exact isFolder_of_makeFolder hmade
    · split at h
      · next hfolder =>
        cases h
        exact hfolder
      · cases h
  | cons first paths ih =>
    rw [List.cons_append, FileTree.makeEach] at h
    split at h
    · exact ih h
    · split at h
      · exact ih h
      · cases h

lemma isFolder_of_makeFolders (hpath : path.isEmpty = false)
    (h : t.makeFolders path = (t', none)) : t'.isFolder path = true := by
  have hlast : ∃ outer, (FileTree.enclosing path.length path).reverse = outer ++ [path] := by
    obtain ⟨n, hn⟩ : ∃ n, path.length = n + 1 := by
      refine Nat.exists_eq_succ_of_ne_zero ?_
      simpa using hpath
    rw [hn, FileTree.enclosing, hpath]
    exact ⟨_, List.reverse_cons⟩
  rw [FileTree.makeFolders, hpath] at h
  simp only [Bool.false_eq_true, if_false] at h
  split at h
  · next t₁ hmade =>
    cases h
    exact isFolder_of_makeFolder hmade
  · obtain ⟨outer, houter⟩ := hlast
    rw [houter] at h
    exact isFolder_of_makeEach h
  · split at h
    · next hfolder =>
      cases h
      exact hfolder
    · cases h

/-- Folders that were made once are there for the next one who needs them. -/
lemma makeFolders_again (h : t.makeFolders path = (t', none)) :
    t'.makeFolders path = (t', none) := by
  cases hpath : path.isEmpty with
  | true => rw [FileTree.makeFolders, if_pos hpath]
  | false => exact makeFolders_of_isFolder (isFolder_of_makeFolders hpath h)

lemma perform_append {first second : List FileStep} :
    t.perform (first ++ second) = (t', none) ↔
      ∃ t₁, t.perform first = (t₁, none) ∧ t₁.perform second = (t', none) := by
  induction first generalizing t with
  | nil => simp [FileTree.perform]
  | cons s first ih =>
    rw [List.cons_append, FileTree.perform, FileTree.perform]
    split
    · exact ih
    · simp

lemma perform_cons {s : FileStep} {rest : List FileStep} :
    t.perform (s :: rest) = (t', none) ↔
      ∃ t₁, t.step s = (t₁, none) ∧ t₁.perform rest = (t', none) := by
  rw [FileTree.perform]
  rcases t.step s with ⟨t₁, _ | e⟩ <;> simp

lemma step_write_iff : t.step (.write path content) = (t', none) ↔
    t.write path content = .ok t' := by
  refine ⟨step_eq_write, fun h => ?_⟩
  rw [FileTree.step, h, FileTree.settle]

lemma step_rename_iff {target : String} : t.step (.rename path target) = (t', none) ↔
    t.rename path target = .ok t' := by
  refine ⟨step_eq_rename, fun h => ?_⟩
  rw [FileTree.step, h, FileTree.settle]

end Steps

end HostFleet.Proofs
