import HostFleet.Proofs.CompletionBuckets

/-!
# Completion by prefixes

Whatever was added to a completer and taken out of it again, it completes a text to the items that
begin with it, among those that were added and not taken out since. Short texts are looked up as
they are, long ones by their beginning, and the empty one in all buckets of one character: all three
ways come to the same because an item stands in the buckets of all of its short beginnings.
-/

namespace HostFleet.Proofs
open Std Completer

/-- What is done to a completer. -/
inductive Edit where
  | add (item : String)
  | remove (item : String)

def Edit.item : Edit → String
  | .add item => item
  | .remove item => item

def Edit.apply (c : Completer) : Edit → Completer
  | .add item => c.add item
  | .remove item => c.remove item

/-- The item was added, and nothing was done to it since. -/
def Stands (edits : List Edit) (item : String) : Prop :=
  ∃ before after, edits = before ++ .add item :: after ∧ ∀ e ∈ after, e.item ≠ item

section Stands

variable {edits : List Edit} {e : Edit} {item : String}

lemma not_stands_nil : ¬ Stands [] item := by
  rintro ⟨before, after, hedits, -⟩
  simp at hedits

/-- The last edit decides about its own item. -/
lemma stands_concat_iff :
    Stands (edits ++ [e]) item ↔ e = .add item ∨ e.item ≠ item ∧ Stands edits item := by
  constructor
  · rintro ⟨before, after, hedits, hafter⟩
    rcases List.eq_nil_or_concat after with rfl | ⟨rest, last, rfl⟩
    · obtain ⟨-, he⟩ := List.append_inj' hedits rfl
      exact .inl (List.singleton_inj.mp he)
    · rw [List.concat_eq_append, ← List.cons_append, ← List.append_assoc] at hedits
      obtain ⟨hbefore, he⟩ := List.append_inj' hedits rfl
      obtain rfl : e = last := List.singleton_inj.mp he
      refine .inr ⟨hafter e (by simp), before, rest, hbefore, fun e' he' => hafter e' ?_⟩
      simp [he']
  · rintro (rfl | ⟨hne, before, after, rfl, hafter⟩)
    · exact ⟨edits, [], rfl, by simp⟩
    · refine ⟨before, after ++ [e], by simp, fun e' he' => ?_⟩
      rcases List.mem_append.mp he' with he' | he'
      · exact hafter e' he'
      · rwa [List.mem_singleton.mp he']

lemma stands_add_iff {i : String} :
    Stands (edits ++ [.add i]) item ↔ Stands edits item ∨ item = i := by
  rw [stands_concat_iff, Edit.add.injEq, Edit.item, ne_comm, eq_comm (a := i)]
  tauto

lemma stands_remove_iff {i : String} :
    Stands (edits ++ [.remove i]) item ↔ Stands edits item ∧ item ≠ i := by
  rw [stands_concat_iff, Edit.item, ne_comm, and_comm, or_iff_right]
  exact Edit.noConfusion

end Stands

/-! ### Keys -/

section Keys

variable {m n : Nat} {key item start : String}

lemma toList_beginning (n : Nat) (s : String) : (beginning n s).toList = s.toList.take n :=
  String.toList_ofList

lemma length_beginning (h : m ≤ start.length) : (beginning m start).length = m := by
  rw [← String.length_toList, toList_beginning, List.length_take, String.length_toList]
  exact Nat.min_eq_left h

/-- The keys of an item are its beginnings that are not empty and not too long. -/
lemma mem_keys_iff :
    key ∈ keys n item ↔ 0 < key.length ∧ key.length ≤ n ∧ key.toList <+: item.toList := by
  rw [keys, List.mem_map]
  constructor
  · rintro ⟨i, hi, rfl⟩
    have hlt : i < n ∧ i < item.length := by simpa using hi
    rw [length_beginning hlt.2, toList_beginning]
    exact ⟨Nat.succ_pos i, hlt.1, List.take_prefix _ _⟩
  · rintro ⟨hpos, hle, hstarts⟩
    have hlength : key.length ≤ item.length := by
      simpa only [String.length_toList] using hstarts.length_le
    refine ⟨key.length - 1, List.mem_range.mpr (by omega), ?_⟩
    rw [Nat.sub_add_cancel hpos, ← String.toList_inj, toList_beginning, ← String.length_toList]
    exact (List.prefix_iff_eq_take.mp hstarts).symm

lemma beginning_mem_keys (hpos : 0 < m) (hle : m ≤ n) (hlength : m ≤ start.length)
    (hstarts : start.toList <+: item.toList) : beginning m start ∈ keys n item := by
  rw [mem_keys_iff, length_beginning hlength, toList_beginning]
  exact ⟨hpos, hle, (List.take_prefix _ _).trans hstarts⟩

/-- An item has a key of one character if it has a character. -/
lemma exists_key_iff (hn : 0 < n) :
    (∃ key, key.length = 1 ∧ key ∈ keys n item) ↔ 0 < item.length := by
  constructor
  · rintro ⟨key, hlength, hkey⟩
    have hle := (mem_keys_iff.mp hkey).2.2.length_le
    rwa [String.length_toList, String.length_toList, hlength] at hle
  · intro hpos
    exact ⟨beginning 1 item, length_beginning hpos,
      beginning_mem_keys Nat.one_pos hn hpos (List.prefix_refl _)⟩

end Keys

/-! ### Buckets after some edits -/

section Buckets

variable {buckets : NameMap NameSet} {c : Completer} {item i key : String}

lemma getD_removeAt {k : String} : (removeAt item buckets key).getD k ∅ =
    if key = k then (buckets.getD key ∅).erase item else buckets.getD k ∅ := by
  rw [removeAt, ExtTreeMap.getD_alter]
  by_cases hk : key = k
  · rw [if_pos (by simpa using hk), if_pos hk, ExtTreeMap.getD_eq_getD_getElem?]
    cases buckets[key]? with
    | none => simp
    | some b =>
      rw [Option.map_some, Option.getD_some]
      dsimp only
      split
      · next hempty => exact (ExtTreeSet.isEmpty_iff.mp hempty).symm
      · rfl
  · rw [if_neg (by simpa using hk), if_neg hk]

lemma mem_removeAt {k : String} :
    i ∈ (removeAt item buckets key).getD k ∅ ↔
      ¬ (key = k ∧ i = item) ∧ i ∈ buckets.getD k ∅ := by
  rw [getD_removeAt]
  by_cases hk : key = k
  · subst hk
    simp [eq_comm (a := i)]
  · simp [hk]

lemma mem_foldl_removeAt {ks : List String} :
    i ∈ (ks.foldl (removeAt item) buckets).getD key ∅ ↔
      ¬ (key ∈ ks ∧ i = item) ∧ i ∈ buckets.getD key ∅ := by
  induction ks generalizing buckets with
  | nil => simp
  | cons k ks ih =>
    rw [List.foldl_cons, ih, mem_removeAt, List.mem_cons, eq_comm (a := k)]
    tauto

/-- An item is taken out under each of its keys. -/
lemma mem_remove : i ∈ (c.remove item).buckets.getD key ∅ ↔
    ¬ (key ∈ keys c.maxLen item ∧ i = item) ∧ i ∈ c.buckets.getD key ∅ :=
  mem_foldl_removeAt

/-- Where the items that satisfy `P` stand under their keys, one more is added to them. -/
lemma mem_add_iff_of {P : String → Prop}
    (h : ∀ key i, i ∈ c.buckets.getD key ∅ ↔ P i ∧ key ∈ keys c.maxLen i) (key i : String) :
    i ∈ (c.add item).buckets.getD key ∅ ↔ (P i ∨ i = item) ∧ key ∈ keys (c.add item).maxLen i := by
  change _ ↔ _ ∧ key ∈ keys c.maxLen i
  rw [mem_add, h]
  by_cases hi : i = item
  · subst hi
    tauto
  · tauto

/-- And one is taken out of them. -/
lemma mem_remove_iff_of {P : String → Prop}
    (h : ∀ key i, i ∈ c.buckets.getD key ∅ ↔ P i ∧ key ∈ keys c.maxLen i) (key i : String) :
    i ∈ (c.remove item).buckets.getD key ∅ ↔
      (P i ∧ i ≠ item) ∧ key ∈ keys (c.remove item).maxLen i := by
  change _ ↔ _ ∧ key ∈ keys c.maxLen i
  rw [mem_remove, h]
  by_cases hi : i = item
  · subst hi
    tauto
  · tauto

lemma mem_foldl_union {entries : List (String × NameSet)} {items : NameSet} :
    i ∈ entries.foldl (fun items e => if e.1.length = 1 then items ∪ e.2 else items) items ↔
      i ∈ items ∨ ∃ e ∈ entries, e.1.length = 1 ∧ i ∈ e.2 := by
  induction entries generalizing items with
  | nil => simp
  | cons e entries ih =>
    rw [List.foldl_cons, ih, List.exists_mem_cons_iff, ← or_assoc]
    split <;> simp [*]

lemma mem_everything : i ∈ c.everything ↔ ∃ key, key.length = 1 ∧ i ∈ c.buckets.getD key ∅ := by
  rw [everything, ExtTreeMap.foldl_eq_foldl_toList, mem_foldl_union,
    or_iff_right ExtTreeSet.not_mem_empty]
  constructor
  · rintro ⟨⟨key, b⟩, hmem, hlength, hi⟩
    refine ⟨key, hlength, ?_⟩
    rwa [getD_of_getElem? (ExtTreeMap.mem_toList_iff_getElem?_eq_some.mp hmem)]
  · rintro ⟨key, hlength, hi⟩
    cases hb : c.buckets[key]? with
    | none => simp [ExtTreeMap.getD_eq_getD_getElem?, hb] at hi
    | some b =>
      rw [getD_of_getElem? hb] at hi
      exact ⟨(key, b), ExtTreeMap.mem_toList_iff_getElem?_eq_some.mpr hb, hlength, hi⟩

end Buckets

/-- What a completer holds after some edits. -/
structure Keyed (n : Nat) (edits : List Edit) (c : Completer) : Prop where
  maxLen : c.maxLen = max n 1
  mem_iff : ∀ key item, item ∈ c.buckets.getD key ∅ ↔ Stands edits item ∧ key ∈ keys c.maxLen item

section Keyed

variable {n : Nat} {edits : List Edit} {c : Completer} {item start : String}

lemma Keyed.maxLen_pos (h : Keyed n edits c) : 0 < c.maxLen :=
  h.maxLen ▸ Nat.lt_of_lt_of_le Nat.one_pos (Nat.le_max_right n 1)

lemma keyed_withMaxLen (n : Nat) : Keyed n [] (withMaxLen n) where
  maxLen := rfl
  mem_iff := by simp [withMaxLen, not_stands_nil]

lemma Keyed.apply (h : Keyed n edits c) (e : Edit) : Keyed n (edits ++ [e]) (Edit.apply c e) := by
  cases e with
  | add item =>
    refine ⟨h.maxLen, fun key i => ?_⟩
    rw [stands_add_iff]
    exact mem_add_iff_of h.mem_iff key i
  | remove item =>
    refine ⟨h.maxLen, fun key i => ?_⟩
    rw [stands_remove_iff]
    exact mem_remove_iff_of h.mem_iff key i

theorem keyed_foldl (n : Nat) (edits : List Edit) :
    Keyed n edits (edits.foldl Edit.apply (withMaxLen n)) := by
  induction edits using List.reverseRecOn with
  | nil => exact keyed_withMaxLen n
  | append_singleton edits e ih =>
    rw [List.foldl_append]
    exact ih.apply e

lemma Keyed.mem_everything_iff (h : Keyed n edits c) :
    item ∈ c.everything ↔ Stands edits item ∧ 0 < item.length := by
  rw [mem_everything, ← exists_key_iff h.maxLen_pos]
  simp only [h.mem_iff]
  tauto

/-- Texts that are short enough for a key are found in their own bucket. -/
lemma Keyed.mem_bucket_iff (h : Keyed n edits c) (hpos : 0 < start.length)
    (hshort : start.length ≤ c.maxLen) :
    item ∈ c.buckets.getD start ∅ ↔ Stands edits item ∧ start.toList <+: item.toList := by
  rw [h.mem_iff, mem_keys_iff]
  tauto

/-- Longer ones are among what the bucket of their beginning holds. -/
lemma Keyed.mem_filter_iff (h : Keyed n edits c) (hlong : c.maxLen ≤ start.length) :
    item ∈ (c.buckets.getD (beginning c.maxLen start) ∅).filter (startsWith start) ↔
      Stands edits item ∧ start.toList <+: item.toList := by
  have hstarts : startsWith start item = true ↔ start.toList <+: item.toList :=
    List.isPrefixOf_iff_prefix
  rw [ExtTreeSet.mem_filter]
  simp only [ExtTreeSet.get_eq, hstarts, exists_prop, h.mem_iff]
  constructor
  · exact fun ⟨⟨hstands, _⟩, hstarts⟩ => ⟨hstands, hstarts⟩
  · exact fun ⟨hstands, hstarts⟩ =>
      ⟨⟨hstands, beginning_mem_keys h.maxLen_pos le_rfl hlong hstarts⟩, hstarts⟩

end Keyed

/-- After any edits a text is completed to the items that begin with it, among those that were last
added and not taken out; the empty text to all of them. The empty item is never one. -/
theorem mem_complete_iff (n : Nat) (edits : List Edit) (start item : String) :
    item ∈ (edits.foldl Edit.apply (withMaxLen n)).complete start ↔
      item ≠ "" ∧ Stands edits item ∧ start.toList <+: item.toList := by
  have hkeyed := keyed_foldl n edits
  generalize edits.foldl Edit.apply (withMaxLen n) = c at hkeyed
  have hitem : item ≠ "" ↔ 0 < item.length := by
    rw [Nat.pos_iff_ne_zero, Ne, Ne, String.length_eq_zero_iff]
  rw [complete, hitem]
  by_cases hempty : start = ""
  · subst hempty
    simp [hkeyed.mem_everything_iff, and_comm]
  · have hpos : 0 < start.length := by
      rwa [Nat.pos_iff_ne_zero, Ne, String.length_eq_zero_iff]
    have hinhabited : start.toList <+: item.toList → 0 < item.length := by
      intro hstarts
      have hle := hstarts.length_le
      rw [String.length_toList, String.length_toList] at hle
      omega
    rw [if_neg (by simpa using hempty)]
    split
    · next hshort =>
      rw [hkeyed.mem_bucket_iff hpos hshort]
      tauto
    · next hlong =>
      rw [hkeyed.mem_filter_iff (by omega)]
      tauto

end HostFleet.Proofs
