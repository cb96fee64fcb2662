import HostFleet.Proofs.NameMaps
import HostFleet.Proofs.SelectorGrammar

/-!
# What a token says

The selector of a token is told by its derivation: the sign, the target and the filters that are
written. Of the values written for one field the last one counts.
-/

namespace HostFleet.Proofs
open Std Selector

def datacenterNames (fs : List Filter) : List String :=
  fs.filterMap fun f => match f with
    | .datacenter name => some name
    | _ => none

def tagNames (fs : List Filter) : List String :=
  fs.filterMap fun f => match f with
    | .tag name => some name
    | _ => none

/-- The keys and values of the field filters. -/
def fieldPairs (fs : List Filter) : List (String × String) :=
  fs.filterMap fun f => match f with
    | .field key value => some (key, value)
    | _ => none

/-- The value that is written last for a key. -/
def lastValue (key : String) (pairs : List (String × String)) : Option String :=
  (lastAt Prod.fst key pairs).map Prod.snd

/-- The filters of a derivation, as they are written. -/
def Derivation.written (d : Derivation) : List Filter := d.filters.map FilterTree.value

/-- The selector that a derivation stands for. -/
structure Derivation.Means (d : Derivation) (sel : Selector) : Prop where
  exclude : sel.exclude = true ↔ d.sign = some .minus
  target : sel.target = d.target.value
  datacenter : sel.datacenter = (datacenterNames d.written).head?
  tags_none : sel.tags = none ↔ tagNames d.written = []
  tags : ∀ tags, sel.tags = some tags → ∀ name, name ∈ tags ↔ name ∈ tagNames d.written
  fields_none : sel.fields = none ↔ fieldPairs d.written = []
  fields : ∀ fields : NameMap String, sel.fields = some fields →
    ∀ key : String, fields[key]? = lastValue key (fieldPairs d.written)

/-! ### Filters put together -/

def addTags (tags : Option NameSet) (names : List String) : Option NameSet :=
  names.foldl (fun tags name => some ((tags.getD ∅).insert name)) tags

def addFields (fields : Option (NameMap String)) (pairs : List (String × String)) :
    Option (NameMap String) :=
  pairs.foldl (fun fields pair => some ((fields.getD ∅).insert pair.1 pair.2)) fields

/-- The second selector is the first one with the filters added. -/
structure Narrows (s s' : Selector) (fs : List Filter) : Prop where
  target : s'.target = s.target
  exclude : s'.exclude = s.exclude
  datacenter : s'.datacenter.toList = s.datacenter.toList ++ datacenterNames fs
  tags : s'.tags = addTags s.tags (tagNames fs)
  fields : s'.fields = addFields s.fields (fieldPairs fs)

lemma option_toList_inj {a b : Option String} (h : a.toList = b.toList) : a = b := by
  rw [← Option.head?_toList (o := a), h, Option.head?_toList]

/-- Only a second datacenter cannot be added. -/
lemma not_narrows_of_narrow? {f : Filter} {fs : List Filter} {s s' : Selector}
    (h : narrow? s f = none) : ¬Narrows s s' (f :: fs) := by
  intro hall
  cases f with
  | datacenter name =>
    cases hs : s.datacenter with
    | none => simp [narrow?, hs] at h
    | some first =>
      have hlength := congrArg List.length hall.datacenter
      rw [hs] at hlength
      cases hs' : s'.datacenter <;> simp [hs', datacenterNames] at hlength
  | tag name => cases h
  | field key value => cases h

/-- The first filter is added before the others. -/
lemma narrows_cons_iff {f : Filter} {fs : List Filter} {s mid s' : Selector}
    (h : narrow? s f = some mid) : Narrows s s' (f :: fs) ↔ Narrows mid s' fs := by
  have hstep : mid.target = s.target ∧ mid.exclude = s.exclude ∧
      mid.datacenter.toList ++ datacenterNames fs =
        s.datacenter.toList ++ datacenterNames (f :: fs) ∧
      addTags mid.tags (tagNames fs) = addTags s.tags (tagNames (f :: fs)) ∧
      addFields mid.fields (fieldPairs fs) = addFields s.fields (fieldPairs (f :: fs)) := by
    cases f with
    | datacenter name =>
      cases hs : s.datacenter with
      | none =>
        obtain rfl : { s with datacenter := some name } = mid := by simpa [narrow?, hs] using h
        exact ⟨rfl, rfl, rfl, rfl, rfl⟩
      | some first => simp [narrow?, hs] at h
    | tag name =>
      obtain rfl := Option.some.inj h
      exact ⟨rfl, rfl, rfl, rfl, rfl⟩
    | field key value =>
      obtain rfl := Option.some.inj h
      exact ⟨rfl, rfl, rfl, rfl, rfl⟩
  obtain ⟨htarget, hexclude, hdatacenter, htags, hfields⟩ := hstep
  constructor
  · intro hall
    exact ⟨hall.target.trans htarget.symm, hall.exclude.trans hexclude.symm,
      hall.datacenter.trans hdatacenter.symm, hall.tags.trans htags.symm,
      hall.fields.trans hfields.symm⟩
  · intro hrest
    exact ⟨hrest.target.trans htarget, hrest.exclude.trans hexclude,
      hrest.datacenter.trans hdatacenter, hrest.tags.trans htags, hrest.fields.trans hfields⟩

/-- Adding filters one by one adds them all, unless that is a second datacenter. -/
theorem foldlM_narrow?_iff {fs : List Filter} {s s' : Selector} :
    fs.foldlM narrow? s = some s' ↔ Narrows s s' fs := by
  induction fs generalizing s with
  | nil =>
    constructor
    · intro h
      obtain rfl := Option.some.inj h
      exact ⟨rfl, rfl, (List.append_nil _).symm, rfl, rfl⟩
    · rintro ⟨htarget, hexclude, hdatacenter, htags, hfields⟩
      rw [datacenterNames, List.filterMap_nil, List.append_nil] at hdatacenter
      cases s
      cases s'
      cases option_toList_inj hdatacenter
      cases htarget
      cases hexclude
      cases htags
      cases hfields
      rfl
  | cons f fs ih =>
    rw [List.foldlM_cons]
    cases hstep : narrow? s f with
    | none => exact ⟨nofun, fun h => absurd h (not_narrows_of_narrow? hstep)⟩
    | some mid =>
      rw [narrows_cons_iff hstep]
      exact ih

lemma addTags_eq_none_iff {names : List String} : addTags none names = none ↔ names = [] := by
  rcases List.eq_nil_or_concat names with rfl | ⟨names, name, rfl⟩
  · exact iff_of_true rfl rfl
  · simp [addTags]

lemma mem_addTags {names : List String} {tags : Option NameSet} {name : String} :
    name ∈ (addTags tags names).getD ∅ ↔ name ∈ tags.getD ∅ ∨ name ∈ names := by
  induction names generalizing tags with
  | nil => simp [addTags]
  | cons first names ih =>
    change name ∈ (addTags (some _) names).getD ∅ ↔ _
    rw [ih, Option.getD_some, ExtTreeSet.mem_insert, Std.compare_eq_iff_eq, List.mem_cons,
      eq_comm (a := first), or_comm (a := name = first), or_assoc]

lemma addFields_eq_none_iff {pairs : List (String × String)} :
    addFields none pairs = none ↔ pairs = [] := by
  rcases List.eq_nil_or_concat pairs with rfl | ⟨pairs, pair, rfl⟩
  · exact iff_of_true rfl rfl
  · simp [addFields]

lemma getElem?_addFields {pairs : List (String × String)} {fields : Option (NameMap String)}
    {key : String} :
    ((addFields fields pairs).getD ∅)[key]? =
      (lastValue key pairs).or (fields.getD ∅)[key]? := by
  induction pairs generalizing fields with
  | nil => rfl
  | cons pair pairs ih =>
    change ((addFields (some _) pairs).getD ∅)[key]? = _
    rw [ih, Option.getD_some, ExtTreeMap.getElem?_insert, lastValue, lastValue, lastAt_cons]
    by_cases hk : pair.1 = key
    · cases lastAt Prod.fst key pairs <;> simp [hk]
    · cases lastAt Prod.fst key pairs <;> simp [hk]

/-! ### The selector of a derivation -/

lemma datacenter_iff {o : Option String} {names : List String} :
    o.toList = names ↔ names.length ≤ 1 ∧ o = names.head? := by
  constructor
  · rintro rfl
    cases o <;> simp
  · rintro ⟨hlength, rfl⟩
    match names, hlength with
    | [], _ => rfl
    | [_], _ => rfl

lemma addTags_iff {tags : Option NameSet} {names : List String} :
    tags = addTags none names ↔ (tags = none ↔ names = []) ∧
      ∀ set, tags = some set → ∀ name, name ∈ set ↔ name ∈ names := by
  constructor
  · rintro rfl
    refine ⟨addTags_eq_none_iff, fun set hset name => ?_⟩
    have hmem : name ∈ (addTags none names).getD ∅ ↔
        name ∈ (none : Option NameSet).getD ∅ ∨ name ∈ names := mem_addTags
    rw [hset] at hmem
    simpa using hmem
  · rintro ⟨hnone, hmem⟩
    cases hadd : addTags none names with
    | none => exact hnone.mpr (addTags_eq_none_iff.mp hadd)
    | some set =>
      cases tags with
      | none =>
        rw [addTags_eq_none_iff.mpr (hnone.mp rfl)] at hadd
        cases hadd
      | some set' =>
        congr 1
        refine ExtTreeSet.ext_mem fun name => ?_
        have hset : name ∈ (addTags none names).getD ∅ ↔
            name ∈ (none : Option NameSet).getD ∅ ∨ name ∈ names := mem_addTags
        rw [hadd] at hset
        rw [hmem set' rfl]
        simpa using hset.symm

lemma addFields_iff {fields : Option (NameMap String)} {pairs : List (String × String)} :
    fields = addFields none pairs ↔ (fields = none ↔ pairs = []) ∧
      ∀ map : NameMap String, fields = some map →
        ∀ key : String, map[key]? = lastValue key pairs := by
  have hlook : ∀ map : NameMap String, addFields none pairs = some map →
      ∀ key : String, map[key]? = lastValue key pairs := by
    intro map hmap key
    have hkey : ((addFields none pairs).getD ∅)[key]? =
        (lastValue key pairs).or ((none : Option (NameMap String)).getD ∅)[key]? :=
      getElem?_addFields
    rw [hmap] at hkey
    simpa using hkey
  constructor
  · rintro rfl
    exact ⟨addFields_eq_none_iff, hlook⟩
  · rintro ⟨hnone, hkey⟩
    cases hadd : addFields none pairs with
    | none => exact hnone.mpr (addFields_eq_none_iff.mp hadd)
    | some map =>
      cases fields with
      | none =>
        rw [addFields_eq_none_iff.mpr (hnone.mp rfl)] at hadd
        cases hadd
      | some map' =>
        congr 1
        refine ExtTreeMap.ext_getElem? fun key => ?_
        rw [hkey map' rfl, hlook map hadd]

/-- The parts of a derived token make up the selector that it stands for. -/
theorem assemble?_iff {d : Derivation} {sel : Selector} :
    d.parts.assemble? = some sel ↔ (datacenterNames d.written).length ≤ 1 ∧ d.Means sel := by
  rw [Parts.assemble?, foldlM_narrow?_iff]
  constructor
  · rintro ⟨htarget, hexclude, hdatacenter, htags, hfields⟩
    obtain ⟨hone, hhead⟩ := datacenter_iff.mp hdatacenter
    obtain ⟨htagsNone, htagsMem⟩ := addTags_iff.mp htags
    obtain ⟨hfieldsNone, hfieldsKey⟩ := addFields_iff.mp hfields
    refine ⟨hone, ?_, htarget, hhead, htagsNone, htagsMem, hfieldsNone, hfieldsKey⟩
    rw [hexclude]
    exact decide_eq_true_iff
  · rintro ⟨hone, h⟩
    refine ⟨h.target, ?_, datacenter_iff.mpr ⟨hone, h.datacenter⟩,
      addTags_iff.mpr ⟨h.tags_none, h.tags⟩, addFields_iff.mpr ⟨h.fields_none, h.fields⟩⟩
    rw [Bool.eq_iff_iff, h.exclude]
    exact decide_eq_true_iff.symm

/-- Nothing but a second datacenter keeps the parts of a derived token apart. -/
lemma assemble?_isSome_iff {d : Derivation} :
    (∃ sel, d.parts.assemble? = some sel) ↔ (datacenterNames d.written).length ≤ 1 := by
  constructor
  · rintro ⟨sel, hsel⟩
    exact (assemble?_iff.mp hsel).1
  · intro hone
    refine ⟨⟨d.target.value, decide (d.sign = some .minus), (datacenterNames d.written).head?,
      addTags none (tagNames d.written), addFields none (fieldPairs d.written)⟩, ?_⟩
    rw [Parts.assemble?, foldlM_narrow?_iff]
    exact ⟨rfl, rfl, datacenter_iff.mpr ⟨hone, rfl⟩, rfl, rfl⟩

/-- Just the selectors whose parts make up one are read from a token. -/
theorem parse_eq_ok_iff {t : String} {sel : Selector} :
    parse t = .ok sel ↔ ∃ d : Derivation, d.text = t.toList ∧ d.parts.assemble? = some sel := by
  rw [parse, ofChars]
  constructor
  · intro h
    split at h
    · cases h
    split at h
    · cases h
    · next p hparts =>
      obtain ⟨d, htext, rfl⟩ := derivation_of_readParts hparts
      split at h
      · next s hs => exact ⟨d, htext, hs.trans (congrArg some (Except.ok.inj h))⟩
      · cases h
  · rintro ⟨d, htext, hsel⟩
    have hne : d.text.isEmpty = false := List.isEmpty_eq_false_iff.mpr (text_ne_nil d)
    simp only [← htext, hne, readParts_text, hsel, Bool.false_eq_true, if_false]

/-- A token is read as a selector just when the grammar derives it with no second datacenter, and
then in the only way. -/
theorem parse_iff_derivation (t : String) :
    ((∃ sel, parse t = .ok sel) ↔
      ∃ d : Derivation, d.text = t.toList ∧ (datacenterNames d.written).length ≤ 1) ∧
    (∀ d d' : Derivation, d.text = t.toList → d'.text = t.toList → d = d') ∧
    ∀ sel, parse t = .ok sel ↔ ∃ d : Derivation, d.text = t.toList ∧
      (datacenterNames d.written).length ≤ 1 ∧ d.Means sel := by
  refine ⟨?_, fun d d' h h' => derivation_unique (h.trans h'.symm), fun sel => ?_⟩
  · simp only [parse_eq_ok_iff, ← assemble?_isSome_iff]
    constructor
    · rintro ⟨sel, d, htext, hsel⟩
      exact ⟨d, htext, sel, hsel⟩
    · rintro ⟨d, htext, sel, hsel⟩
      exact ⟨sel, d, htext, hsel⟩
  · simp only [parse_eq_ok_iff, assemble?_iff]

end HostFleet.Proofs
