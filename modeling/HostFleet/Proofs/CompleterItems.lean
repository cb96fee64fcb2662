import HostFleet.Proofs.CacheFormats
import HostFleet.Proofs.PrefixCompletion

/-!
# Completers and their items

A completer that items were added to and taken out of keeps nothing of its history but the items:
each stands under all of its keys, and no bucket is left without one. So two completers with the same
limit are equal just when they have the same items, and what is added and taken out again leaves no
trace. The empty item has no key and is never there.

A decoded completer can have any limit of 64 bits and any buckets, also such as no edits lead to.
Whatever they are, an item that is added is completed from each of its beginnings, as long as the
limit is not 0. A completer that is made empty has a limit of one at least, but the decoder takes
the limit as it is written; with a limit of 0 an item has no keys, and adding it changes nothing.
-/

namespace HostFleet.Proofs
open Std Completer

variable {P P' : String → Prop} {c c' : Completer} {buckets : NameMap NameSet}
  {item i key start : String}

/-- The completer has the items that satisfy `P`, each under its keys, and nothing besides. -/
structure FilledWith (P : String → Prop) (c : Completer) : Prop where
  maxLen_pos : 0 < c.maxLen
  trim : Trim c.buckets
  mem_iff : ∀ key item, item ∈ c.buckets.getD key ∅ ↔ P item ∧ key ∈ keys c.maxLen item

/-! ### What is in a completer -/

lemma ne_empty_of_mem_keys {n : Nat} (h : key ∈ keys n item) : item ≠ "" := by
  rintro rfl
  obtain ⟨hpos, -, hstarts⟩ := mem_keys_iff.mp h
  have hnil : key.toList = [] := List.prefix_nil.mp hstarts
  rw [← String.length_toList, hnil] at hpos
  exact Nat.lt_irrefl 0 hpos

/-- An item that is not empty is told by the bucket of its first character. -/
lemma FilledWith.mem_first_iff (h : FilledWith P c) (hne : item ≠ "") :
    item ∈ c.buckets.getD (beginning 1 item) ∅ ↔ P item := by
  have hpos : 0 < item.length := Nat.pos_of_ne_zero (mt String.length_eq_zero_iff.mp hne)
  have hkey : beginning 1 item ∈ keys c.maxLen item :=
    beginning_mem_keys Nat.one_pos h.maxLen_pos hpos (List.prefix_refl _)
  rw [h.mem_iff, and_iff_left hkey]

/-- Completers with the same limit are equal just when they have the same items. -/
theorem FilledWith.eq_iff (h : FilledWith P c) (h' : FilledWith P' c')
    (hmax : c.maxLen = c'.maxLen) : c = c' ↔ ∀ item, item ≠ "" → (P item ↔ P' item) := by
  constructor
  · rintro rfl item hne
    rw [← h.mem_first_iff hne, h'.mem_first_iff hne]
  · intro hsame
    have hbuckets : c.buckets = c'.buckets := by
      refine buckets_ext h.trim h'.trim fun key item => ?_
      rw [h.mem_iff, h'.mem_iff, ← hmax]
      exact and_congr_left fun hkey => hsame item (ne_empty_of_mem_keys hkey)
    calc c = ⟨c.maxLen, c.buckets⟩ := rfl
      _ = ⟨c'.maxLen, c'.buckets⟩ := by rw [hmax, hbuckets]

/-- A completer without buckets is one without items. -/
lemma FilledWith.isEmpty_iff (h : FilledWith P c) :
    c.isEmpty = true ↔ ∀ item, item ≠ "" → ¬P item := by
  have hnone : FilledWith (fun _ => False) ⟨c.maxLen, ∅⟩ :=
    ⟨h.maxLen_pos, by intro key b hb; simp at hb, by simp⟩
  have hbuckets : c.isEmpty = true ↔ c = ⟨c.maxLen, ∅⟩ := by
    rw [isEmpty, ExtTreeMap.isEmpty_iff]
    constructor
    · intro hempty
      rw [← hempty]
    · intro heq
      exact congrArg Completer.buckets heq
  simpa only [iff_false] using hbuckets.trans (h.eq_iff hnone rfl)

/-- No bucket is empty, and its key is a beginning of each item in it, of 1 up to `n` characters. -/
def WellKeyed (n : Nat) (c : Completer) : Prop :=
  ∀ (key : String) (bucket : NameSet), c.buckets[key]? = some bucket →
    (∃ item, item ∈ bucket) ∧ 1 ≤ key.length ∧ key.length ≤ n ∧
      ∀ item ∈ bucket, key.toList <+: item.toList

lemma FilledWith.wellKeyed (h : FilledWith P c) : WellKeyed c.maxLen c := by
  intro key bucket hbucket
  have hkey : ∀ item ∈ bucket, key ∈ keys c.maxLen item := by
    intro item hitem
    rw [← getD_of_getElem? hbucket] at hitem
    exact ((h.mem_iff key item).mp hitem).2
  obtain ⟨item, hitem⟩ := h.trim key bucket hbucket
  obtain ⟨hpos, hle, -⟩ := mem_keys_iff.mp (hkey item hitem)
  exact ⟨⟨item, hitem⟩, hpos, hle, fun i hi => (mem_keys_iff.mp (hkey i hi)).2.2⟩

/-! ### Completing -/

/-- A text that is not empty is looked up by its first characters. If there are more, the items
found are tested for the whole of it. -/
lemma mem_complete_of_ne (hne : start ≠ "") : item ∈ c.complete start ↔
    item ∈ c.buckets.getD (beginning c.maxLen start) ∅ ∧
      (c.maxLen < start.length → start.toList <+: item.toList) := by
  rw [complete, if_neg (by simpa using hne)]
  by_cases hshort : start.length ≤ c.maxLen
  · have hwhole : beginning c.maxLen start = start := by
      rw [← String.toList_inj, toList_beginning, List.take_of_length_le]
      rwa [String.length_toList]
    rw [if_pos hshort, hwhole]
    exact (and_iff_left fun hlong => absurd hshort (Nat.not_le.mpr hlong)).symm
  · have hlong : c.maxLen < start.length := Nat.not_le.mp hshort
    have hstarts : startsWith start item = true ↔ start.toList <+: item.toList :=
      List.isPrefixOf_iff_prefix
    rw [if_neg hshort, ExtTreeSet.mem_filter]
    simp only [ExtTreeSet.get_eq, hstarts, exists_prop, hlong, forall_const]

/-- The first characters of a text are a key of the items that begin with them. -/
lemma beginning_mem_keys_iff {n : Nat} (hn : 0 < n) (hne : start ≠ "") :
    beginning n start ∈ keys n item ↔ start.toList.take n <+: item.toList := by
  have hpos : 0 < start.length := Nat.pos_of_ne_zero (mt String.length_eq_zero_iff.mp hne)
  have hlength : (beginning n start).length = min n start.length := by
    rw [← String.length_toList, toList_beginning, List.length_take, String.length_toList]
  rw [mem_keys_iff, hlength, toList_beginning]
  exact ⟨fun h => h.2.2, fun h => ⟨by omega, by omega, h⟩⟩

/-- A text is completed to the items that begin with it, whatever way they are looked up. -/
theorem FilledWith.mem_complete (h : FilledWith P c) :
    item ∈ c.complete start ↔ item ≠ "" ∧ P item ∧ start.toList <+: item.toList := by
  by_cases hempty : start = ""
  · subst hempty
    have hall : c.complete "" = c.everything := if_pos rfl
    rw [hall, mem_everything]
    constructor
    · rintro ⟨key, -, hitem⟩
      obtain ⟨hP, hkey⟩ := (h.mem_iff key item).mp hitem
      exact ⟨ne_empty_of_mem_keys hkey, hP, List.nil_prefix⟩
    · rintro ⟨hne, hP, -⟩
      have hpos : 1 ≤ item.length := Nat.pos_of_ne_zero (mt String.length_eq_zero_iff.mp hne)
      exact ⟨beginning 1 item, length_beginning hpos, (h.mem_first_iff hne).mpr hP⟩
  · rw [mem_complete_of_ne hempty, h.mem_iff, beginning_mem_keys_iff h.maxLen_pos hempty]
    constructor
    · rintro ⟨⟨hP, hfront⟩, htested⟩
      have hstarts : start.toList <+: item.toList := by
        by_cases hlong : c.maxLen < start.length
        · exact htested hlong
        · rwa [List.take_of_length_le (by rw [String.length_toList]; omega)] at hfront
      refine ⟨?_, hP, hstarts⟩
      rintro rfl
      exact hempty (String.toList_eq_nil_iff.mp (List.prefix_nil.mp hstarts))
    · rintro ⟨-, hP, hstarts⟩
      exact ⟨⟨hP, (List.take_prefix _ _).trans hstarts⟩, fun _ => hstarts⟩

/-! ### Adding and taking out -/

lemma trim_removeAt (ht : Trim buckets) : Trim (removeAt item buckets key) := by
  intro k b hb
  rw [removeAt, ExtTreeMap.getElem?_alter] at hb
  by_cases hk : key = k
  · rw [if_pos (by simpa using hk)] at hb
    split at hb
    · next left hleft =>
      split at hb
      · cases hb
      · next hsome =>
        obtain rfl := Option.some.inj hb
        by_contra hno
        push Not at hno
        exact hsome (ExtTreeSet.isEmpty_iff.mpr (ExtTreeSet.eq_empty_iff_forall_not_mem.mpr hno))
    · cases hb
  · rw [if_neg (by simpa using hk)] at hb
    exact ht k b hb

lemma trim_remove (ht : Trim c.buckets) : Trim (c.remove item).buckets :=
  List.foldlRecOn _ _ ht fun _ ht _ _ => trim_removeAt ht

lemma FilledWith.add (h : FilledWith P c) (item : String) :
    FilledWith (fun i => P i ∨ i = item) (c.add item) where
  maxLen_pos := h.maxLen_pos
  trim := trim_add h.trim
  mem_iff := mem_add_iff_of h.mem_iff

lemma FilledWith.remove (h : FilledWith P c) (item : String) :
    FilledWith (fun i => P i ∧ i ≠ item) (c.remove item) where
  maxLen_pos := h.maxLen_pos
  trim := trim_remove h.trim
  mem_iff := mem_remove_iff_of h.mem_iff

/-- Taking out changes nothing just when the item is not there. -/
lemma FilledWith.remove_eq_self_iff (h : FilledWith P c) :
    c.remove item = c ↔ ¬(item ≠ "" ∧ P item) := by
  rw [(h.remove item).eq_iff h rfl]
  constructor
  · rintro hsame ⟨hne, hitem⟩
    exact ((hsame item hne).mpr hitem).2 rfl
  · intro hnot i hne
    refine and_iff_left_of_imp fun hi => ?_
    rintro rfl
    exact hnot ⟨hne, hi⟩

/-- An item that is added and taken out again leaves no trace just when it was not there. -/
lemma FilledWith.remove_add_eq_self_iff (h : FilledWith P c) :
    (c.add item).remove item = c ↔ ¬(item ≠ "" ∧ P item) := by
  rw [((h.add item).remove item).eq_iff h rfl, ← h.remove_eq_self_iff,
    (h.remove item).eq_iff h rfl]
  refine forall_congr' fun i => imp_congr_right fun _ => ?_
  by_cases hi : i = item
  · subst hi
    tauto
  · tauto

/-! ### Completers that were edited -/

/-- The completer that the edits make, with keys of at most `n` characters but of one at least. -/
def edited (n : Nat) (edits : List Edit) : Completer := edits.foldl Edit.apply (withMaxLen n)

/-- The items that are there after the edits. The empty one never is. -/
def standing (edits : List Edit) : Set String := {item | item ≠ "" ∧ Stands edits item}

section Edited

variable (n : Nat) (edits : List Edit)

lemma edited_maxLen : (edited n edits).maxLen = max n 1 := (keyed_foldl n edits).maxLen

lemma trim_edited : Trim (edited n edits).buckets := by
  have hstart : Trim (withMaxLen n).buckets := by
    intro key b hb
    simp [withMaxLen] at hb
  refine List.foldlRecOn (motive := fun c : Completer => Trim c.buckets) _ _ hstart fun c ht e _ => ?_
  cases e with
  | add item => exact trim_add ht
  | remove item => exact trim_remove ht

lemma filledWith_edited : FilledWith (Stands edits) (edited n edits) where
  maxLen_pos := (keyed_foldl n edits).maxLen_pos
  trim := trim_edited n edits
  mem_iff := (keyed_foldl n edits).mem_iff

end Edited

/-- Edits that leave the same items make the same completer, and only they do. Its buckets are
well keyed, it is empty just when it has no item, and an item that is not there can be taken out,
or added and taken out, without a change. -/
theorem edited_eq_iff_standing (n : Nat) (edits edits' : List Edit) :
    (edited n edits = edited n edits' ↔ standing edits = standing edits') ∧
    WellKeyed (max n 1) (edited n edits) ∧
    ((edited n edits).isEmpty = true ↔ standing edits = ∅) ∧
    ∀ item,
      ((edited n edits).remove item = edited n edits ↔ item ∉ standing edits) ∧
      (((edited n edits).add item).remove item = edited n edits ↔ item ∉ standing edits) := by
  have hfilled := filledWith_edited n edits
  have hmax := edited_maxLen n edits
  refine ⟨?_, hmax ▸ hfilled.wellKeyed, ?_, fun item => ⟨?_, ?_⟩⟩
  · rw [hfilled.eq_iff (filledWith_edited n edits') (hmax.trans (edited_maxLen n edits').symm),
      Set.ext_iff]
    exact forall_congr' fun item => and_congr_right_iff.symm
  · rw [hfilled.isEmpty_iff, Set.eq_empty_iff_forall_notMem]
    exact forall_congr' fun item => not_and.symm
  · exact hfilled.remove_eq_self_iff
  · exact hfilled.remove_add_eq_self_iff

/-- The longer item still has its buckets when the shorter one, one of its keys, is taken out. -/
example : edited 2 [.add "ab", .add "abc", .remove "ab"] = edited 2 [.add "abc"] := by cbv

/-! ### Completers that were decoded -/

/-- Some text is decoded as the completer. -/
def Decoded (c : Completer) : Prop :=
  ∃ content, (Json.read? content).bind Completer.ofDocument? = some c

/-- The completer offers the item for each of its beginnings, the empty one included. -/
def Offers (c : Completer) (item : String) : Prop :=
  ∀ start : String, start.toList <+: item.toList → item ∈ c.complete start

lemma storable_of_ofDocument? {d : Document} (h : Completer.ofDocument? d = some c) :
    Storable c := by
  rw [Completer.ofDocument?] at h
  simp only [Option.bind_eq_bind, Option.bind_eq_some_iff, Option.some.injEq] at h
  obtain ⟨f, -, n, hmax, buckets, -, rfl⟩ := h
  rw [Fields.required] at hmax
  split at hmax
  · next d' _ =>
    cases d' with
    | int k =>
      rw [Document.natBelow?] at hmax
      split at hmax
      · next hbound =>
        obtain rfl := Option.some.inj hmax
        obtain ⟨hnonneg, hlt⟩ := Bool.and_eq_true_iff.mp hbound
        exact (Int.toNat_lt (of_decide_eq_true hnonneg)).mpr (of_decide_eq_true hlt)
      · cases hmax
    | _ => cases hmax
  · cases hmax

/-- Nothing but the size of the limit is asked of a completer in a document. -/
theorem decoded_iff : Decoded c ↔ Storable c := by
  constructor
  · rintro ⟨content, hread⟩
    obtain ⟨d, -, hd⟩ := Option.bind_eq_some_iff.mp hread
    exact storable_of_ofDocument? hd
  · intro hc
    exact ⟨Json.encode c.toDocument,
      ((readsBack_iff (plain_completer c)).mpr (completer_ofDocument? hc)).text⟩

lemma mem_add_of_key {key : String} (h : key ∈ keys c.maxLen item) :
    item ∈ (c.add item).buckets.getD key ∅ :=
  mem_add.mpr (.inl ⟨h, rfl⟩)

/-- With a limit that is not 0 all three ways of looking up find an item that was just added. -/
lemma offers_add (hmax : 0 < c.maxLen) (hne : item ≠ "") : Offers (c.add item) item := by
  intro start hstarts
  by_cases hempty : start = ""
  · have hpos : 0 < item.length := Nat.pos_of_ne_zero (mt String.length_eq_zero_iff.mp hne)
    obtain ⟨key, hlength, hkey⟩ := (exists_key_iff hmax).mpr hpos
    have hall : (c.add item).complete start = (c.add item).everything := by
      rw [hempty]
      rfl
    rw [hall, mem_everything]
    exact ⟨key, hlength, mem_add_of_key hkey⟩
  · have hkey : beginning c.maxLen start ∈ keys c.maxLen item :=
      (beginning_mem_keys_iff hmax hempty).mpr ((List.take_prefix _ _).trans hstarts)
    exact (mem_complete_of_ne hempty).mpr ⟨mem_add_of_key hkey, fun _ => hstarts⟩

/-- Without keys nothing is added. -/
lemma add_of_maxLen_zero (h : c.maxLen = 0) : c.add item = c := by
  have hkeys : keys c.maxLen item = [] := by simp [keys, h]
  rw [add, hkeys]
  rfl

/-- Without keys, what is looked up is one bucket of a character, or the bucket under no character
at all. -/
lemma offers_iff_of_maxLen_zero (h : c.maxLen = 0) (hne : item ≠ "") :
    Offers c item ↔
      (∃ key, key.length = 1 ∧ item ∈ c.buckets.getD key ∅) ∧ item ∈ c.buckets.getD "" ∅ := by
  have hnone : ∀ start : String, beginning c.maxLen start = "" := by
    intro start
    rw [h, beginning, List.take_zero]
  rw [← mem_everything]
  constructor
  · intro hoffers
    have hwhole := hoffers item (List.prefix_refl _)
    rw [mem_complete_of_ne hne, hnone] at hwhole
    exact ⟨hoffers "" List.nil_prefix, hwhole.1⟩
  · rintro ⟨hall, hbucket⟩ start hstarts
    by_cases hempty : start = ""
    · rw [hempty]
      exact hall
    · rw [mem_complete_of_ne hempty, hnone]
      exact ⟨hbucket, fun _ => hstarts⟩

/-- A completer can be decoded whatever its buckets are. It offers an item that is added to it unless
its limit is 0, where it offers what it offered before: an item that stands both under a single
character and under none. -/
theorem added_offered_iff (c : Completer) :
    (Decoded c ↔ c.maxLen < 2 ^ 64) ∧
    ∀ item, item ≠ "" →
      (Offers (c.add item) item ↔ 0 < c.maxLen ∨
        (∃ key, key.length = 1 ∧ item ∈ c.buckets.getD key ∅) ∧ item ∈ c.buckets.getD "" ∅) := by
  refine ⟨decoded_iff, fun item hne => ?_⟩
  rcases Nat.eq_zero_or_pos c.maxLen with hzero | hpos
  · rw [add_of_maxLen_zero hzero, offers_iff_of_maxLen_zero hzero hne,
      or_iff_right (Nat.not_lt.mpr (Nat.le_of_eq hzero))]
  · exact iff_of_true (offers_add hpos hne) (.inl hpos)

/-- An item that is added to a decoded completer with the limit 0 is not offered. -/
theorem added_not_offered_of_zero_limit : "web" ≠ "" ∧ Decoded ⟨0, ∅⟩ ∧
    ¬Offers (Completer.add ⟨0, ∅⟩ "web") "web" := by
  obtain ⟨hdecoded, hoffers⟩ := added_offered_iff ⟨0, ∅⟩
  have hne : "web" ≠ "" := by decide
  refine ⟨hne, hdecoded.mpr (by decide), ?_⟩
  rw [hoffers "web" hne]
  simp

end HostFleet.Proofs
