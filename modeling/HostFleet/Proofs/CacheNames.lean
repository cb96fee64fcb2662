import HostFleet.Inventory.Cache
import Mathlib

/-!
# Names of cache files

The cache files of some projects are named for their names, sorted and joined by dots. The same
set of names has the same files. Two sets share their files just when their names have the same
pieces between the dots: a dot inside a name is not told from one between two names.
-/

namespace HostFleet.Proofs
open Std

/-! ### Parts of paths -/

/-- Both paths lead along the same names from the same start. -/
structure SamePath (a b : String) : Prop where
  isAbsolute : Path.isAbsolute a = Path.isAbsolute b
  parts : Path.parts a = Path.parts b

/-- Both files of the one cache are at the same paths as those of the other. -/
structure SameFiles (f g : CacheFiles) : Prop where
  data : SamePath f.data g.data
  index : SamePath f.index g.index

lemma parts_append_slash (a b : String) :
    Path.parts (a ++ "/" ++ b) = Path.parts a ++ Path.parts b := by
  have hslash : "/".toList = ['/'] := rfl
  simp [Path.parts, String.toList_append, hslash, List.splitOn_append_cons_self]

/-- What is added to a text without a slash goes to its last part. -/
lemma exists_splitOn_append (cs : List Char) : ∃ front last, ∀ ending : List Char, '/' ∉ ending →
    (cs ++ ending).splitOn '/' = front ++ [last ++ ending] := by
  induction cs with
  | nil => exact ⟨[], [], fun ending h => List.splitOn_eq_singleton h⟩
  | cons c cs ih =>
    obtain ⟨front, last, ih⟩ := ih
    by_cases hc : c = '/'
    · refine ⟨[] :: front, last, fun ending h => ?_⟩
      rw [List.cons_append, List.splitOn_cons_eq_if_modifyHead, ih ending h]
      simp [hc]
    · cases front with
      | nil =>
        refine ⟨[], c :: last, fun ending h => ?_⟩
        rw [List.cons_append, List.splitOn_cons_eq_if_modifyHead, ih ending h]
        simp [hc]
      | cons first front =>
        refine ⟨(c :: first) :: front, last, fun ending h => ?_⟩
        rw [List.cons_append, List.splitOn_cons_eq_if_modifyHead, ih ending h]
        simp [hc]

/-- Paths that differ in their endings alone have the same parts but for the last one. -/
lemma exists_parts_append (path : String) : ∃ front stem, ∀ ending : String,
    '/' ∉ ending.toList → 2 ≤ ending.toList.length →
      Path.parts (path ++ ending) = front ++ [stem ++ ending] := by
  obtain ⟨front, last, hsplit⟩ := exists_splitOn_append path.toList
  refine ⟨(front.map String.ofList).filter fun p => p != "" && p != ".", String.ofList last, ?_⟩
  intro ending hslash hlength
  have hproper : ∀ part : String, part.toList.length < 2 → String.ofList last ++ ending ≠ part := by
    rintro part hshort rfl
    rw [String.toList_append, List.length_append] at hshort
    omega
  rw [Path.parts, String.toList_append, hsplit _ hslash, List.map_append, List.filter_append]
  simp [hproper "" (by decide), hproper "." (by decide)]

lemma parts_name {name : String} (hslash : '/' ∉ name.toList) (hlength : 2 ≤ name.toList.length) :
    Path.parts name = [name] := by
  have hproper : ∀ part : String, part.toList.length < 2 → name ≠ part := by
    rintro part hshort rfl
    omega
  rw [Path.parts, List.splitOn_eq_singleton hslash]
  simp [hproper "" (by decide), hproper "." (by decide)]

/-- A folder puts the same text in front of every relative path. -/
lemma exists_join_eq (dir : String) : ∃ front, (front = "" ∨ ∃ d, front = d ++ "/") ∧
    ∀ file, Path.isAbsolute file = false → Path.join dir file = front ++ file := by
  by_cases hempty : dir.isEmpty = true
  · refine ⟨"", .inl rfl, fun file hfile => ?_⟩
    rw [Path.join, hempty, Bool.or_true, if_pos rfl, String.empty_append]
  · by_cases hslash : dir.endsWith "/" = true
    · refine ⟨dir, .inr ?_, fun file hfile => ?_⟩
      · rw [← String.endsWith_toSlice, String.Slice.endsWith_string_iff,
          String.copy_toSlice] at hslash
        obtain ⟨d, hd⟩ := hslash
        refine ⟨String.ofList d, String.toList_inj.mp ?_⟩
        rw [String.toList_append, String.toList_ofList, hd]
      · simp [Path.join, hempty, hslash, hfile]
    · refine ⟨dir ++ "/", .inr ⟨dir, rfl⟩, fun file hfile => ?_⟩
      simp [Path.join, hempty, hslash, hfile]

/-! ### Keys -/

/-- The names without repetition, in order. -/
def sortedNames (projects : List String) : List String :=
  (ExtTreeSet.ofList projects : NameSet).toList

/-- What the file names say of the projects. -/
def cacheKey (projects : List String) : String := ".".intercalate (sortedNames projects)

/-- The pieces between the dots of the names, in order. No name at all counts as an empty one. -/
def keyPieces (projects : List String) : List (List Char) :=
  if projects = [] then [[]] else (sortedNames projects).flatMap fun n => n.toList.splitOn '.'

lemma mem_sortedNames {projects : List String} {n : String} :
    n ∈ sortedNames projects ↔ n ∈ projects := by
  rw [sortedNames, ExtTreeSet.mem_toList, ExtTreeSet.mem_ofList, List.contains_iff_mem]

lemma sortedNames_eq_iff {p q : List String} :
    sortedNames p = sortedNames q ↔ ∀ n, n ∈ p ↔ n ∈ q := by
  constructor
  · intro heq n
    rw [← mem_sortedNames, heq, mem_sortedNames]
  · intro hmem
    have hset : (ExtTreeSet.ofList p : NameSet) = ExtTreeSet.ofList q := by
      refine ExtTreeSet.ext_mem fun n => ?_
      rw [ExtTreeSet.mem_ofList, ExtTreeSet.mem_ofList, List.contains_iff_mem,
        List.contains_iff_mem]
      exact hmem n
    rw [sortedNames, hset, sortedNames]

lemma sortedNames_eq_nil_iff {projects : List String} :
    sortedNames projects = [] ↔ projects = [] := by
  simp only [List.eq_nil_iff_forall_not_mem, mem_sortedNames]

/-- A joined list is cut into the pieces of its members. -/
lemma splitOn_intercalate_flatMap {x : Char} {ls : List (List Char)} (hne : ls ≠ []) :
    ([x].intercalate ls).splitOn x = ls.flatMap fun l => l.splitOn x := by
  induction ls with
  | nil => exact absurd rfl hne
  | cons l ls ih =>
    cases ls with
    | nil => simp
    | cons l' ls =>
      rw [List.intercalate_cons_cons, List.append_assoc, List.singleton_append,
        List.splitOn_append_cons_self, ih (List.cons_ne_nil _ _)]
      rfl

lemma splitOn_cacheKey (projects : List String) :
    (cacheKey projects).toList.splitOn '.' = keyPieces projects := by
  have hdot : ".".toList = ['.'] := rfl
  rw [cacheKey, String.toList_intercalate, hdot, keyPieces]
  split
  · next hnil =>
    rw [sortedNames_eq_nil_iff.mpr hnil]
    rfl
  · next hne =>
    rw [splitOn_intercalate_flatMap (by simpa [sortedNames_eq_nil_iff] using hne),
      List.flatMap_map]

/-- Sets have the same key when their names have the same pieces. -/
lemma cacheKey_eq_iff {p q : List String} :
    cacheKey p = cacheKey q ↔ keyPieces p = keyPieces q := by
  rw [← splitOn_cacheKey, ← splitOn_cacheKey, ← String.toList_inj]
  constructor
  · intro heq
    rw [heq]
  · intro heq
    have hjoin : ∀ key : String, ['.'].intercalate (key.toList.splitOn '.') = key.toList :=
      fun _ => List.intercalate_splitOn '.'
    rw [← hjoin (cacheKey p), heq, hjoin]

/-- Names without dots are their own pieces, and only an empty set has an empty one. -/
lemma filter_keyPieces {projects : List String}
    (hplain : ∀ n ∈ projects, n ≠ "" ∧ '.' ∉ n.toList) :
    (keyPieces projects).filter (· ≠ []) = (sortedNames projects).map String.toList := by
  rw [keyPieces]
  split
  · next hnil =>
    rw [sortedNames_eq_nil_iff.mpr hnil]
    rfl
  · have hpieces : ∀ n ∈ sortedNames projects, n.toList.splitOn '.' = [n.toList] :=
      fun n hn => List.splitOn_eq_singleton (hplain n (mem_sortedNames.mp hn)).2
    rw [List.flatMap_def, List.map_congr_left hpieces, ← List.flatMap_def, ← List.map_eq_flatMap,
      List.filter_eq_self]
    intro cs hcs
    obtain ⟨n, hn, rfl⟩ := List.mem_map.mp hcs
    simpa using (hplain n (mem_sortedNames.mp hn)).1

/-- Pieces tell apart sets of names that are neither empty nor hold a dot. -/
lemma keyPieces_eq_iff {p q : List String} (hplain : ∀ n ∈ p ++ q, n ≠ "" ∧ '.' ∉ n.toList) :
    keyPieces p = keyPieces q ↔ ∀ n, n ∈ p ↔ n ∈ q := by
  rw [← sortedNames_eq_iff]
  constructor
  · intro heq
    apply List.map_injective_iff.mpr fun _ _ h => String.toList_injective h
    rw [← filter_keyPieces fun n hn => hplain n (List.mem_append_left _ hn), heq,
      filter_keyPieces fun n hn => hplain n (List.mem_append_right _ hn)]
  · intro heq
    rw [← cacheKey_eq_iff, cacheKey, heq, cacheKey]

/-! ### Files -/

/-- The name of a cache file. -/
def cacheName (kind key : String) : String := kind ++ key ++ CacheFiles.formatVersion ++ ".json"

lemma cacheFiles_of (dir : String) (projects : List String) : CacheFiles.of dir projects =
    ⟨Path.join dir (cacheName "cache_" (cacheKey projects)),
      Path.join dir (cacheName "ac_" (cacheKey projects))⟩ := rfl

lemma cacheName_inj {kind key key' : String} :
    cacheName kind key = cacheName kind key' ↔ key = key' := by
  simp [cacheName]

lemma isAbsolute_cacheName (key : String) :
    Path.isAbsolute (cacheName "cache_" key) = false ∧
      Path.isAbsolute (cacheName "ac_" key) = false := by
  simp [Path.isAbsolute, cacheName]

/-- The files tell keys apart. -/
lemma cacheFiles_eq_iff_key {dir : String} {p q : List String} :
    CacheFiles.of dir p = CacheFiles.of dir q ↔ cacheKey p = cacheKey q := by
  obtain ⟨front, -, hjoin⟩ := exists_join_eq dir
  have hfiles : ∀ projects, CacheFiles.of dir projects =
      ⟨front ++ cacheName "cache_" (cacheKey projects),
        front ++ cacheName "ac_" (cacheKey projects)⟩ := by
    intro projects
    rw [cacheFiles_of, hjoin _ (isAbsolute_cacheName _).1, hjoin _ (isAbsolute_cacheName _).2]
  rw [hfiles, hfiles]
  simp [cacheName_inj]

/-- In one folder, names without slashes are different paths. -/
lemma eq_of_samePath_join {dir f g : String}
    (hf : Path.isAbsolute f = false ∧ Path.parts f = [f])
    (hg : Path.isAbsolute g = false ∧ Path.parts g = [g])
    (h : SamePath (Path.join dir f) (Path.join dir g)) : f = g := by
  obtain ⟨front, hfront, hjoin⟩ := exists_join_eq dir
  have hparts := h.parts
  rw [hjoin f hf.1, hjoin g hg.1] at hparts
  rcases hfront with rfl | ⟨d, rfl⟩
  · rw [String.empty_append, String.empty_append, hf.2, hg.2] at hparts
    exact List.singleton_inj.mp hparts
  · rw [parts_append_slash, parts_append_slash, hf.2, hg.2] at hparts
    exact List.singleton_inj.mp (List.append_cancel_left hparts)

/-- A joined list holds nothing but the separator and what its members hold. -/
lemma mem_intercalate {c x : Char} {ls : List (List Char)} (h : c ∈ [x].intercalate ls) :
    c = x ∨ ∃ l ∈ ls, c ∈ l := by
  induction ls with
  | nil => simp at h
  | cons l ls ih =>
    cases ls with
    | nil => exact .inr ⟨l, .head _, by simpa using h⟩
    | cons l' ls =>
      rw [List.intercalate_cons_cons, List.append_assoc, List.singleton_append,
        List.mem_append, List.mem_cons] at h
      rcases h with h | h | h
      · exact .inr ⟨l, .head _, h⟩
      · exact .inl h
      · refine (ih h).imp_right ?_
        rintro ⟨l₀, hl₀, hc⟩
        exact ⟨l₀, .tail _ hl₀, hc⟩

lemma not_mem_cacheKey {projects : List String} (h : ∀ n ∈ projects, '/' ∉ n.toList) :
    '/' ∉ (cacheKey projects).toList := by
  intro hmem
  rw [cacheKey, String.toList_intercalate] at hmem
  rcases mem_intercalate hmem with hdot | ⟨l, hl, hc⟩
  · exact absurd hdot (by decide)
  · obtain ⟨n, hn, rfl⟩ := List.mem_map.mp hl
    exact h n (mem_sortedNames.mp hn) hc

lemma parts_cacheName {projects : List String} (h : ∀ n ∈ projects, '/' ∉ n.toList) :
    Path.parts (cacheName "cache_" (cacheKey projects)) =
      [cacheName "cache_" (cacheKey projects)] := by
  have hkey : '/' ∉ (cacheKey projects).toList := not_mem_cacheKey h
  apply parts_name <;> simp [cacheName, hkey, CacheFiles.formatVersion]

/-- Cache files tell two sets of projects apart just when the pieces of their names between dots
do. They are the same for the same set, and where no name is empty or holds a dot they are the
same for no other. -/
theorem cacheFiles_eq_iff (dir : String) (p q : List String) :
    ((∀ n, n ∈ p ↔ n ∈ q) → CacheFiles.of dir p = CacheFiles.of dir q) ∧
    (CacheFiles.of dir p = CacheFiles.of dir q ↔ keyPieces p = keyPieces q) ∧
    ((∀ n ∈ p ++ q, '/' ∉ n.toList) →
      (SameFiles (CacheFiles.of dir p) (CacheFiles.of dir q) ↔ keyPieces p = keyPieces q)) ∧
    ((∀ n ∈ p ++ q, n ≠ "" ∧ '.' ∉ n.toList) →
      (keyPieces p = keyPieces q ↔ ∀ n, n ∈ p ↔ n ∈ q)) := by
  refine ⟨fun hmem => ?_, ?_, fun hslash => ?_, fun hplain => ?_⟩
  · rw [cacheFiles_eq_iff_key, cacheKey, sortedNames_eq_iff.mpr hmem, cacheKey]
  · rw [cacheFiles_eq_iff_key, cacheKey_eq_iff]
  · rw [← cacheKey_eq_iff]
    constructor
    · intro hsame
      have hdata := hsame.data
      have hp := parts_cacheName fun n hn => hslash n (List.mem_append_left _ hn)
      have hq := parts_cacheName fun n hn => hslash n (List.mem_append_right _ hn)
      rw [cacheFiles_of, cacheFiles_of] at hdata
      exact cacheName_inj.mp (eq_of_samePath_join ⟨(isAbsolute_cacheName _).1, hp⟩
        ⟨(isAbsolute_cacheName _).1, hq⟩ hdata)
    · intro heq
      rw [cacheFiles_eq_iff_key.mpr heq]
      exact ⟨⟨rfl, rfl⟩, rfl, rfl⟩
  · exact keyPieces_eq_iff hplain

/-- A dot inside a name looks like one between two names. -/
example : cacheKey ["a.b"] = cacheKey ["b", "a"] := by cbv

end HostFleet.Proofs
