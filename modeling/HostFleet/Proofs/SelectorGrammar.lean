import HostFleet.Selector.Parser
import Mathlib

/-!
# The grammar of selectors

A token is derived from an optional sign, a target and filters. `Derivation` is such a derivation,
and its `text` is what it derives. The readers, which take each part as far as its characters go,
find a derivation whenever there is one, and there is never a second.
-/

namespace HostFleet.Proofs
open Selector

/-! ### Derivations -/

def NameChar (c : Char) : Prop :=
  ('A' ≤ c ∧ c ≤ 'Z') ∨ ('a' ≤ c ∧ c ≤ 'z') ∨ ('0' ≤ c ∧ c ≤ '9') ∨ c = '_' ∨ c = '.' ∨ c = '-'

def LabelChar (c : Char) : Prop :=
  ('a' ≤ c ∧ c ≤ 'z') ∨ ('0' ≤ c ∧ c ≤ '9') ∨ c = '_' ∨ c = '-'

def ValueChar (c : Char) : Prop := NameChar c ∨ c = ':'

/-- One or more characters of a class. -/
@[ext] structure Word (P : Char → Prop) where
  chars : List Char
  nonempty : chars ≠ []
  all : ∀ c ∈ chars, P c

def Word.string {P : Char → Prop} (w : Word P) : String := String.ofList w.chars

inductive SignTree where
  | plus
  | minus
  deriving DecidableEq

def SignTree.char : SignTree → Char
  | .plus => '+'
  | .minus => '-'

inductive TargetTree where
  | group (name : Word NameChar)
  | project (name : Word NameChar)
  | entire
  | host (first second : Word LabelChar) (more : List (Word LabelChar))

/-- Labels, each after a dot. -/
def dotted (labels : List (Word LabelChar)) : List Char :=
  labels.flatMap fun l => '.' :: l.chars

def TargetTree.text : TargetTree → List Char
  | .group name => '%' :: name.chars
  | .project name => '*' :: name.chars
  | .entire => ['*']
  | .host first second more => first.chars ++ dotted (second :: more)

def TargetTree.value : TargetTree → Target
  | .group name => .group name.string
  | .project name => .project name.string
  | .entire => .entire
  | .host first second more => .host (String.ofList (first.chars ++ dotted (second :: more)))

inductive FilterTree where
  | datacenter (name : Word NameChar)
  | tag (name : Word NameChar)
  | field (key : Word NameChar) (value : Word ValueChar)

def FilterTree.text : FilterTree → List Char
  | .datacenter name => '@' :: name.chars
  | .tag name => '#' :: name.chars
  | .field key value => '[' :: (key.chars ++ '=' :: (value.chars ++ [']']))

def FilterTree.value : FilterTree → Filter
  | .datacenter name => .datacenter name.string
  | .tag name => .tag name.string
  | .field key value => .field key.string value.string

/-- The text of a run of filters. -/
def filtersText (fs : List FilterTree) : List Char := fs.flatMap FilterTree.text

/-- How a token is derived. What begins like a sign has one. -/
@[ext] structure Derivation where
  sign : Option SignTree
  target : TargetTree
  filters : List FilterTree
  unsigned : sign = none → ∀ c ∈ target.text.head?, c ≠ '+' ∧ c ≠ '-'

def signText (sign : Option SignTree) : List Char := (sign.map SignTree.char).toList

def Derivation.text (d : Derivation) : List Char :=
  signText d.sign ++ (d.target.text ++ filtersText d.filters)

/-- What the readers make of the derived token. -/
def Derivation.parts (d : Derivation) : Parts :=
  ⟨decide (d.sign = some .minus), d.target.value, d.filters.map FilterTree.value⟩

/-! ### Words -/

lemma isNameChar_iff {c : Char} : isNameChar c = true ↔ NameChar c := by
  simp only [isNameChar, NameChar, Char.isAlphanum, Char.isAlpha, Char.isUpper, Char.isLower,
    Char.isDigit, Bool.or_eq_true, Bool.and_eq_true, decide_eq_true_eq, Char.le_def, ge_iff_le]
  tauto

lemma isLabelChar_iff {c : Char} : isLabelChar c = true ↔ LabelChar c := by
  simp only [isLabelChar, LabelChar, Char.isLower, Char.isDigit, Bool.or_eq_true,
    Bool.and_eq_true, decide_eq_true_eq, Char.le_def, ge_iff_le]
  tauto

lemma isValueChar_iff {c : Char} : isValueChar c = true ↔ ValueChar c := by
  rw [isValueChar, Bool.or_eq_true, isNameChar_iff, decide_eq_true_eq, ValueChar]

instance : DecidablePred NameChar := fun _ => decidable_of_iff _ isNameChar_iff

instance : DecidablePred LabelChar := fun _ => decidable_of_iff _ isLabelChar_iff

instance : DecidablePred ValueChar := fun _ => decidable_of_iff _ isValueChar_iff

section Words

variable {p : Char → Bool} {P : Char → Prop}

/-- A run ends where its class does. -/
lemma run?_word (hp : ∀ c, p c = true ↔ P c) (w : Word P) {rest : List Char}
    (hrest : ∀ c ∈ rest.head?, ¬P c) : run? p (w.chars ++ rest) = some (w.chars, rest) := by
  have hall : ∀ c ∈ w.chars, p c = true := fun c hc => (hp c).mpr (w.all c hc)
  have htake : rest.takeWhile p = [] := by
    cases rest with
    | nil => rfl
    | cons c cs =>
      rw [List.takeWhile_cons, if_neg]
      rw [hp]
      exact hrest c rfl
  have hdrop : rest.dropWhile p = rest := by
    have h := List.takeWhile_append_dropWhile (p := p) (l := rest)
    rwa [htake, List.nil_append] at h
  rw [run?, List.takeWhile_append_of_pos hall, List.dropWhile_append_of_pos hall, htake, hdrop,
    List.append_nil]
  split
  · next hnil => exact absurd hnil w.nonempty
  · rfl

/-- What a run takes is a word. -/
lemma word_of_run? (hp : ∀ c, p c = true ↔ P c) {cs taken rest : List Char}
    (h : run? p cs = some (taken, rest)) :
    ∃ w : Word P, w.chars = taken ∧ cs = w.chars ++ rest := by
  obtain ⟨hne, hall, rfl⟩ := run?_eq_some h
  exact ⟨⟨taken, hne, fun c hc => (hp c).mp (hall c hc)⟩, rfl, rfl⟩

lemma run?_none {rest : List Char} (hp : ∀ c, p c = true ↔ P c) (hrest : ∀ c ∈ rest.head?, ¬P c) :
    run? p rest = none := by
  cases hrun : run? p rest with
  | none => rfl
  | some r =>
    obtain ⟨w, -, rfl⟩ := word_of_run? hp hrun
    obtain ⟨c, cs, hchars⟩ := List.exists_cons_of_ne_nil w.nonempty
    exact absurd (w.all c (by simp [hchars])) (hrest c (by simp [hchars]))

/-- Where a word ends is told by the text. -/
lemma word_append_inj [DecidablePred P] {w w' : Word P} {rest rest' : List Char}
    (hrest : ∀ c ∈ rest.head?, ¬P c) (hrest' : ∀ c ∈ rest'.head?, ¬P c)
    (h : w.chars ++ rest = w'.chars ++ rest') : w = w' ∧ rest = rest' := by
  have hp : ∀ c, decide (P c) = true ↔ P c := fun c => decide_eq_true_iff
  have hrun := run?_word hp w hrest
  rw [h, run?_word hp w' hrest'] at hrun
  simp only [Option.some.injEq, Prod.mk.injEq] at hrun
  exact ⟨Word.ext hrun.1.symm, hrun.2.symm⟩

lemma string_inj {w w' : Word P} (h : w.string = w'.string) : w = w' :=
  Word.ext (String.ofList_injective h)

end Words

lemma name?_word (n : Word NameChar) {rest : List Char} (hrest : ∀ c ∈ rest.head?, ¬NameChar c) :
    name? (n.chars ++ rest) = some (n.string, rest) := by
  rw [name?, run?_word (fun _ => isNameChar_iff) n hrest]
  rfl

lemma value?_word (v : Word ValueChar) {rest : List Char}
    (hrest : ∀ c ∈ rest.head?, ¬ValueChar c) :
    value? (v.chars ++ rest) = some (v.string, rest) := by
  rw [value?, run?_word (fun _ => isValueChar_iff) v hrest]
  rfl

lemma word_of_name? {cs rest : List Char} {name : String} (h : name? cs = some (name, rest)) :
    ∃ n : Word NameChar, n.string = name ∧ cs = n.chars ++ rest := by
  rw [name?, Option.map_eq_some_iff] at h
  obtain ⟨⟨taken, tail⟩, hrun, heq⟩ := h
  obtain ⟨rfl, rfl⟩ := Prod.mk.inj heq
  obtain ⟨n, rfl, hcs⟩ := word_of_run? (fun _ => isNameChar_iff) hrun
  exact ⟨n, rfl, hcs⟩

lemma word_of_value? {cs rest : List Char} {value : String}
    (h : value? cs = some (value, rest)) :
    ∃ v : Word ValueChar, v.string = value ∧ cs = v.chars ++ rest := by
  rw [value?, Option.map_eq_some_iff] at h
  obtain ⟨⟨taken, tail⟩, hrun, heq⟩ := h
  obtain ⟨rfl, rfl⟩ := Prod.mk.inj heq
  obtain ⟨v, rfl, hcs⟩ := word_of_run? (fun _ => isValueChar_iff) hrun
  exact ⟨v, rfl, hcs⟩

/-! ### Targets -/

/-- Nothing follows, or a filter does. -/
def Ends (rest : List Char) : Prop := ∀ c ∈ rest.head?, c = '@' ∨ c = '#' ∨ c = '['

lemma ends_filter (f : FilterTree) (rest : List Char) : Ends (f.text ++ rest) := by
  intro c hc
  cases f with
  | datacenter name => exact .inl (Option.some.inj hc).symm
  | tag name => exact .inr (.inl (Option.some.inj hc).symm)
  | field key value => exact .inr (.inr (Option.some.inj hc).symm)

lemma ends_filtersText (fs : List FilterTree) : Ends (filtersText fs) := by
  cases fs with
  | nil => exact nofun
  | cons f fs => exact ends_filter f (filtersText fs)

section Ends

variable {rest : List Char} (h : Ends rest)
include h

lemma Ends.not_nameChar : ∀ c ∈ rest.head?, ¬NameChar c := by
  intro c hc
  rcases h c hc with rfl | rfl | rfl <;> decide

lemma Ends.not_labelChar : ∀ c ∈ rest.head?, ¬LabelChar c := by
  intro c hc
  rcases h c hc with rfl | rfl | rfl <;> decide

lemma Ends.ne_dot : ∀ c ∈ rest.head?, c ≠ '.' := by
  intro c hc
  rcases h c hc with rfl | rfl | rfl <;> decide

/-- Neither a filter nor a dot goes on with the label before it. -/
lemma Ends.not_labelChar_dotted (ls : List (Word LabelChar)) :
    ∀ c ∈ (dotted ls ++ rest).head?, ¬LabelChar c := by
  intro c hc
  cases ls with
  | nil => exact h.not_labelChar c hc
  | cons l ls =>
    obtain rfl : '.' = c := Option.some.inj hc
    decide

end Ends

lemma dotted_cons (l : Word LabelChar) (ls : List (Word LabelChar)) (rest : List Char) :
    dotted (l :: ls) ++ rest = '.' :: (l.chars ++ (dotted ls ++ rest)) := by
  simp [dotted]

lemma readLabels_label {rest label tail : List Char}
    (h : run? isLabelChar rest = some (label, tail)) :
    readLabels ('.' :: rest) = ('.' :: label ++ (readLabels tail).1, (readLabels tail).2) := by
  rw [readLabels]
  split
  · next hread =>
    rw [h] at hread
    obtain ⟨rfl, rfl⟩ := Prod.mk.inj (Option.some.inj hread)
    rfl
  · next hread =>
    rw [h] at hread
    cases hread

lemma readLabels_stop {rest : List Char} (h : run? isLabelChar rest = none) :
    readLabels ('.' :: rest) = ([], '.' :: rest) := by
  rw [readLabels]
  split
  · next hread =>
    rw [h] at hread
    cases hread
  · rfl

lemma readLabels_end {cs : List Char} (h : ∀ rest, cs = '.' :: rest → False) :
    readLabels cs = ([], cs) := by
  rw [readLabels.eq_def]
  split
  · next rest => exact (h rest rfl).elim
  · rfl

lemma readLabels_dotted (ls : List (Word LabelChar)) {rest : List Char} (h : Ends rest) :
    readLabels (dotted ls ++ rest) = (dotted ls, rest) := by
  induction ls with
  | nil =>
    refine readLabels_end fun tail htail => ?_
    obtain rfl : rest = '.' :: tail := htail
    exact h.ne_dot '.' rfl rfl
  | cons l ls ih =>
    have hrun := run?_word (fun _ => isLabelChar_iff) l (h.not_labelChar_dotted ls)
    rw [dotted_cons, readLabels_label hrun, ih]
    simp [dotted]

lemma labels_of_readLabels (cs : List Char) :
    ∃ ls, (readLabels cs).1 = dotted ls ∧ cs = dotted ls ++ (readLabels cs).2 := by
  induction cs using readLabels.induct with
  | case1 rest label tail hrun _ _ _ _ ih =>
    obtain ⟨l, rfl, rfl⟩ := word_of_run? (fun _ => isLabelChar_iff) hrun
    obtain ⟨ls, hmore, htail⟩ := ih
    refine ⟨l :: ls, ?_, ?_⟩
    · rw [readLabels_label hrun, hmore]
      simp [dotted]
    · rw [readLabels_label hrun, dotted_cons, ← htail]
  | case2 rest hrun =>
    rw [readLabels_stop hrun]
    exact ⟨[], rfl, rfl⟩
  | case3 cs hno =>
    rw [readLabels_end hno]
    exact ⟨[], rfl, rfl⟩

lemma readHostName_labels (first second : Word LabelChar) (more : List (Word LabelChar))
    {rest : List Char} (h : Ends rest) :
    readHostName (first.chars ++ (dotted (second :: more) ++ rest)) =
      .ok (String.ofList (first.chars ++ dotted (second :: more)), rest) := by
  have hfirst := run?_word (fun _ => isLabelChar_iff) first
    (h.not_labelChar_dotted (second :: more))
  have hsecond := run?_word (fun _ => isLabelChar_iff) second (h.not_labelChar_dotted more)
  have hlabels := readLabels_dotted (second :: more) h
  rw [dotted_cons] at hfirst hlabels ⊢
  simp only [readHostName, hfirst, hsecond, hlabels]

lemma labels_of_readHostName {cs tail : List Char} {name : String}
    (h : readHostName cs = .ok (name, tail)) :
    ∃ (first second : Word LabelChar) (more : List (Word LabelChar)),
      name = String.ofList (first.chars ++ dotted (second :: more)) ∧
      cs = first.chars ++ (dotted (second :: more) ++ tail) := by
  rw [readHostName] at h
  split at h
  · cases h
  · next taken rest hfirst =>
    obtain ⟨first, rfl, rfl⟩ := word_of_run? (fun _ => isLabelChar_iff) hfirst
    split at h
    · next rest =>
      split at h
      · cases h
      · next hsecond =>
        obtain ⟨ls, hmore, htail⟩ := labels_of_readLabels ('.' :: rest)
        obtain ⟨rfl, rfl⟩ := Prod.mk.inj (Except.ok.inj h)
        -- A label follows the first dot, so the labels read are not none.
        cases ls with
        | nil =>
          rw [readLabels_label hsecond] at hmore
          cases hmore
        | cons l ls => exact ⟨first, l, ls, by rw [hmore], by rw [← htail]⟩
    · cases h

/-- What begins with a label is read as the name of a host. -/
lemma readTarget_label (l : Word LabelChar) (rest : List Char) :
    readTarget (l.chars ++ rest) =
      (readHostName (l.chars ++ rest)).map fun (name, tail) => (.host name, tail) := by
  obtain ⟨c, cs, hl⟩ := List.exists_cons_of_ne_nil l.nonempty
  have hc : LabelChar c := l.all c (by simp [hl])
  rw [readTarget.eq_def]
  split
  · next tail heq =>
    rw [hl] at heq
    obtain ⟨rfl, -⟩ := List.cons.inj heq
    exact absurd hc (by decide)
  · next tail heq =>
    rw [hl] at heq
    obtain ⟨rfl, -⟩ := List.cons.inj heq
    exact absurd hc (by decide)
  · rfl

/-- A target is read to its end. -/
theorem readTarget_text (t : TargetTree) {rest : List Char} (h : Ends rest) :
    readTarget (t.text ++ rest) = .ok (t.value, rest) := by
  cases t with
  | group name =>
    simp only [TargetTree.text, List.cons_append, readTarget, name?_word name h.not_nameChar]
    rfl
  | project name =>
    simp only [TargetTree.text, List.cons_append, readTarget, name?_word name h.not_nameChar]
    rfl
  | entire =>
    have hnone : name? rest = none := by
      rw [name?, run?_none (fun _ => isNameChar_iff) h.not_nameChar]
      rfl
    simp only [TargetTree.text, List.cons_append, List.nil_append, readTarget, hnone]
    rfl
  | host first second more =>
    rw [TargetTree.text, List.append_assoc, readTarget_label,
      readHostName_labels first second more h]
    rfl

/-- What is read as a target is the text of one. -/
theorem target_of_readTarget {cs tail : List Char} {target : Target}
    (h : readTarget cs = .ok (target, tail)) :
    ∃ t : TargetTree, t.value = target ∧ cs = t.text ++ tail := by
  rw [readTarget.eq_def] at h
  split at h
  · split at h
    · next name tail' hname =>
      obtain ⟨n, rfl, rfl⟩ := word_of_name? hname
      obtain ⟨rfl, rfl⟩ := Prod.mk.inj (Except.ok.inj h)
      exact ⟨.group n, rfl, rfl⟩
    · cases h
  · split at h
    · next name tail' hname =>
      obtain ⟨n, rfl, rfl⟩ := word_of_name? hname
      obtain ⟨rfl, rfl⟩ := Prod.mk.inj (Except.ok.inj h)
      exact ⟨.project n, rfl, rfl⟩
    · obtain ⟨rfl, rfl⟩ := Prod.mk.inj (Except.ok.inj h)
      exact ⟨.entire, rfl, rfl⟩
  · cases hread : readHostName cs with
    | error stop =>
      rw [hread] at h
      cases h
    | ok r =>
      obtain ⟨name, tail'⟩ := r
      rw [hread] at h
      obtain ⟨rfl, rfl⟩ := Prod.mk.inj (Except.ok.inj h)
      obtain ⟨first, second, more, rfl, rfl⟩ := labels_of_readHostName hread
      exact ⟨.host first second more, rfl, by simp [TargetTree.text]⟩

/-! ### Filters -/

/-- Brackets end a filter whatever follows it. -/
lemma filter?_field (key : Word NameChar) (value : Word ValueChar) (rest : List Char) :
    ∃ c cs, (FilterTree.field key value).text ++ rest = c :: cs ∧
      filter? c cs = some ((FilterTree.field key value).value, rest) := by
  have hkey : name? (key.chars ++ '=' :: (value.chars ++ ']' :: rest)) =
      some (key.string, '=' :: (value.chars ++ ']' :: rest)) :=
    name?_word key (by rintro c ⟨⟩; decide)
  have hvalue : value? (value.chars ++ ']' :: rest) = some (value.string, ']' :: rest) :=
    value?_word value (by rintro c ⟨⟩; decide)
  refine ⟨'[', key.chars ++ '=' :: (value.chars ++ ']' :: rest), by simp [FilterTree.text], ?_⟩
  rw [filter?, if_neg (by decide), if_neg (by decide), if_pos rfl]
  simp [hkey, hvalue, after?, FilterTree.value]

/-- A filter is read to its end. -/
theorem filter?_text (f : FilterTree) {rest : List Char} (h : Ends rest) :
    ∃ c cs, f.text ++ rest = c :: cs ∧ filter? c cs = some (f.value, rest) := by
  cases f with
  | datacenter name =>
    refine ⟨'@', name.chars ++ rest, rfl, ?_⟩
    rw [filter?, if_pos rfl, name?_word name h.not_nameChar]
    rfl
  | tag name =>
    refine ⟨'#', name.chars ++ rest, rfl, ?_⟩
    rw [filter?, if_neg (by decide), if_pos rfl, name?_word name h.not_nameChar]
    rfl
  | field key value => exact filter?_field key value rest

lemma eq_cons_of_after? {c : Char} {cs rest : List Char} (h : after? c cs = some rest) :
    cs = c :: rest := by
  unfold after? at h
  split at h
  · split at h
    · next heq => rw [heq, Option.some.inj h]
    · cases h
  · cases h

/-- What is read as a filter is the text of one. -/
theorem filter_of_filter? {c : Char} {cs rest : List Char} {filter : Filter}
    (h : filter? c cs = some (filter, rest)) :
    ∃ f : FilterTree, f.value = filter ∧ c :: cs = f.text ++ rest := by
  rw [filter?] at h
  split at h
  · next hc =>
    subst hc
    obtain ⟨⟨name, tail⟩, hname, heq⟩ := Option.map_eq_some_iff.mp h
    obtain ⟨rfl, rfl⟩ := Prod.mk.inj heq
    obtain ⟨n, rfl, rfl⟩ := word_of_name? hname
    exact ⟨.datacenter n, rfl, rfl⟩
  split at h
  · next hc =>
    subst hc
    obtain ⟨⟨name, tail⟩, hname, heq⟩ := Option.map_eq_some_iff.mp h
    obtain ⟨rfl, rfl⟩ := Prod.mk.inj heq
    obtain ⟨n, rfl, rfl⟩ := word_of_name? hname
    exact ⟨.tag n, rfl, rfl⟩
  split at h
  · next hc =>
    subst hc
    simp only [Option.bind_eq_bind, Option.bind_eq_some_iff, Option.some.injEq, Prod.exists,
      Prod.mk.injEq] at h
    obtain ⟨key, _, hkey, _, heq, value, _, hvalue, _, hclose, rfl, rfl⟩ := h
    obtain ⟨k, rfl, rfl⟩ := word_of_name? hkey
    obtain rfl := eq_cons_of_after? heq
    obtain ⟨v, rfl, rfl⟩ := word_of_value? hvalue
    obtain rfl := eq_cons_of_after? hclose
    exact ⟨.field k v, rfl, by simp [FilterTree.text]⟩
  · cases h

lemma readFilters_filter {c : Char} {cs rest : List Char} {f : Filter}
    (h : filter? c cs = some (f, rest)) :
    readFilters (c :: cs) = (f :: (readFilters rest).1, (readFilters rest).2) := by
  rw [readFilters]
  split
  · next hread =>
    rw [h] at hread
    cases hread
  · next hread =>
    rw [h] at hread
    obtain ⟨rfl, rfl⟩ := Prod.mk.inj (Option.some.inj hread)
    rfl

lemma readFilters_stop {c : Char} {cs : List Char} (h : filter? c cs = none) :
    readFilters (c :: cs) = ([], c :: cs) := by
  rw [readFilters]
  split
  · rfl
  · next hread =>
    rw [h] at hread
    cases hread

/-- A run of filters is read to its end. -/
theorem readFilters_text (fs : List FilterTree) :
    readFilters (filtersText fs) = (fs.map FilterTree.value, []) := by
  induction fs with
  | nil => rw [filtersText, List.flatMap_nil, readFilters, List.map_nil]
  | cons f fs ih =>
    obtain ⟨c, cs, htext, hfilter⟩ := filter?_text f (ends_filtersText fs)
    rw [filtersText, List.flatMap_cons, ← filtersText, htext, readFilters_filter hfilter, ih]
    rfl

/-- What is read as filters is the text of some. -/
theorem filters_of_readFilters (cs : List Char) :
    ∃ fs, (readFilters cs).1 = fs.map FilterTree.value ∧
      cs = filtersText fs ++ (readFilters cs).2 := by
  induction cs using readFilters.induct with
  | case1 =>
    rw [readFilters]
    exact ⟨[], rfl, rfl⟩
  | case2 c cs hstop =>
    rw [readFilters_stop hstop]
    exact ⟨[], rfl, rfl⟩
  | case3 c cs filter rest hfilter _ _ _ _ ih =>
    obtain ⟨f, rfl, htext⟩ := filter_of_filter? hfilter
    obtain ⟨fs, hfs, hrest⟩ := ih
    refine ⟨f :: fs, ?_, ?_⟩
    · rw [readFilters_filter hfilter, hfs]
      rfl
    · rw [readFilters_filter hfilter, htext, filtersText, List.flatMap_cons, List.append_assoc,
        ← filtersText, ← hrest]

/-! ### Tokens -/

lemma target_text_ne_nil (t : TargetTree) : t.text ≠ [] := by
  cases t with
  | group name => exact List.cons_ne_nil _ _
  | project name => exact List.cons_ne_nil _ _
  | entire => exact List.cons_ne_nil _ _
  | host first second more => exact List.append_ne_nil_of_left_ne_nil first.nonempty _

lemma text_ne_nil (d : Derivation) : d.text ≠ [] := by
  intro h
  rw [Derivation.text, List.append_eq_nil_iff, List.append_eq_nil_iff] at h
  exact target_text_ne_nil _ h.2.1

lemma readSign_sign (sign : SignTree) (rest : List Char) :
    readSign (sign.char :: rest) = (decide (sign = .minus), rest) := by
  cases sign <;> rfl

lemma readSign_none {cs : List Char} (h : ∀ c ∈ cs.head?, c ≠ '+' ∧ c ≠ '-') :
    readSign cs = (false, cs) := by
  rw [readSign.eq_def]
  split
  · exact absurd rfl (h _ rfl).2
  · exact absurd rfl (h _ rfl).1
  · rfl

lemma head?_target_text (t : TargetTree) (rest : List Char) :
    (t.text ++ rest).head? = t.text.head? := by
  obtain ⟨c, cs, htext⟩ := List.exists_cons_of_ne_nil (target_text_ne_nil t)
  rw [htext]
  rfl

/-- The sign in front of a derived token is read, and nothing else. -/
lemma readSign_text (d : Derivation) (more : List Char) : readSign (d.text ++ more) =
    (decide (d.sign = some .minus), d.target.text ++ (filtersText d.filters ++ more)) := by
  rw [Derivation.text, List.append_assoc, List.append_assoc]
  cases hs : d.sign with
  | none =>
    refine readSign_none ?_
    rw [signText, Option.map_none, Option.toList_none, List.nil_append, head?_target_text]
    exact d.unsigned hs
  | some sign =>
    rw [signText, Option.map_some, Option.toList_some, List.cons_append, readSign_sign]
    simp

/-- A derived token is read as it was derived. -/
theorem readParts_text (d : Derivation) : readParts d.text = .ok d.parts := by
  have hsign := readSign_text d []
  rw [List.append_nil, List.append_nil] at hsign
  rw [readParts, hsign]
  simp only [readTarget_text d.target (ends_filtersText d.filters), readFilters_text]
  rfl

lemma sign_of_readSign (cs : List Char) : ∃ sign : Option SignTree,
    (readSign cs).1 = decide (sign = some .minus) ∧ cs = signText sign ++ (readSign cs).2 ∧
      (sign = none → ∀ c ∈ (readSign cs).2.head?, c ≠ '+' ∧ c ≠ '-') := by
  rw [readSign.eq_def]
  split
  · exact ⟨some .minus, rfl, rfl, nofun⟩
  · exact ⟨some .plus, rfl, rfl, nofun⟩
  · next hminus hplus =>
    refine ⟨none, rfl, rfl, fun _ c hc => ?_⟩
    obtain ⟨rest, rfl⟩ := List.head?_eq_some_iff.mp hc
    constructor
    · rintro rfl
      exact hplus rest rfl
    · rintro rfl
      exact hminus rest rfl

/-- What is read as a token is derived. -/
theorem derivation_of_readParts {cs : List Char} {p : Parts} (h : readParts cs = .ok p) :
    ∃ d : Derivation, d.text = cs ∧ d.parts = p := by
  obtain ⟨sign, hexclude, hcs, hunsigned⟩ := sign_of_readSign cs
  rw [readParts] at h
  dsimp only at h
  split at h
  · cases h
  · next target rest htarget =>
    obtain ⟨t, rfl, hsigned⟩ := target_of_readTarget htarget
    obtain ⟨fs, hfs, hrest⟩ := filters_of_readFilters rest
    split at h
    · next read hread =>
      rw [hread] at hfs hrest
      rw [List.append_nil] at hrest
      refine ⟨⟨sign, t, fs, fun hs => ?_⟩, ?_, ?_⟩
      · rw [← head?_target_text t rest, ← hsigned]
        exact hunsigned hs
      · rw [hsigned, hrest] at hcs
        exact hcs.symm
      · obtain rfl := Except.ok.inj h
        rw [Derivation.parts, hexclude]
        exact congrArg _ hfs.symm
    · cases h

/-! ### One derivation only -/

lemma dotted_inj {ls ls' : List (Word LabelChar)} (h : dotted ls = dotted ls') : ls = ls' := by
  have hnil : Ends [] := nofun
  induction ls generalizing ls' with
  | nil =>
    cases ls' with
    | nil => rfl
    | cons l' ls' => cases h
  | cons l ls ih =>
    cases ls' with
    | nil => cases h
    | cons l' ls' =>
      have hhead := hnil.not_labelChar_dotted ls
      have hhead' := hnil.not_labelChar_dotted ls'
      rw [List.append_nil] at hhead hhead'
      obtain ⟨rfl, htail⟩ := word_append_inj hhead hhead' (List.cons.inj h).2
      rw [ih htail]

lemma target_value_inj {t t' : TargetTree} (h : t.value = t'.value) : t = t' := by
  have hnil : Ends [] := nofun
  cases t with
  | group name =>
    cases t' with
    | group name' => rw [string_inj (Target.group.inj h)]
    | project name' => cases h
    | entire => cases h
    | host first' second' more' => cases h
  | project name =>
    cases t' with
    | group name' => cases h
    | project name' => rw [string_inj (Target.project.inj h)]
    | entire => cases h
    | host first' second' more' => cases h
  | entire =>
    cases t' with
    | group name' => cases h
    | project name' => cases h
    | entire => rfl
    | host first' second' more' => cases h
  | host first second more =>
    cases t' with
    | group name' => cases h
    | project name' => cases h
    | entire => cases h
    | host first' second' more' =>
      have hhead := hnil.not_labelChar_dotted (second :: more)
      have hhead' := hnil.not_labelChar_dotted (second' :: more')
      rw [List.append_nil] at hhead hhead'
      obtain ⟨rfl, hlabels⟩ :=
        word_append_inj hhead hhead' (String.ofList_injective (Target.host.inj h))
      obtain ⟨rfl, rfl⟩ := List.cons.inj (dotted_inj hlabels)
      rfl

lemma filter_value_inj {f f' : FilterTree} (h : f.value = f'.value) : f = f' := by
  cases f with
  | datacenter name =>
    cases f' with
    | datacenter name' => rw [string_inj (Filter.datacenter.inj h)]
    | tag name' => cases h
    | field key' value' => cases h
  | tag name =>
    cases f' with
    | datacenter name' => cases h
    | tag name' => rw [string_inj (Filter.tag.inj h)]
    | field key' value' => cases h
  | field key value =>
    cases f' with
    | datacenter name' => cases h
    | tag name' => cases h
    | field key' value' =>
      obtain ⟨hkey, hvalue⟩ := Filter.field.inj h
      rw [string_inj hkey, string_inj hvalue]

lemma head?_text (d : Derivation) :
    d.text.head? = (d.sign.map SignTree.char).or d.target.text.head? := by
  rw [Derivation.text]
  cases d.sign with
  | none => exact head?_target_text d.target _
  | some sign => rfl

/-- A text shows its sign by its first character. -/
lemma sign_of_text {d d' : Derivation} (h : d.text = d'.text) : d.sign = d'.sign := by
  have hhead : d.text.head? = d'.text.head? := by rw [h]
  rw [head?_text, head?_text] at hhead
  have hunsigned := d.unsigned
  have hunsigned' := d'.unsigned
  cases hs : d.sign with
  | none =>
    cases hs' : d'.sign with
    | none => rfl
    | some sign' =>
      rw [hs, hs'] at hhead
      have hc := hunsigned hs sign'.char hhead
      cases sign' with
      | plus => exact absurd rfl hc.1
      | minus => exact absurd rfl hc.2
  | some sign =>
    cases hs' : d'.sign with
    | none =>
      rw [hs, hs'] at hhead
      have hc := hunsigned' hs' sign.char hhead.symm
      cases sign with
      | plus => exact absurd rfl hc.1
      | minus => exact absurd rfl hc.2
    | some sign' =>
      rw [hs, hs'] at hhead
      have hchar : sign.char = sign'.char := Option.some.inj hhead
      cases sign <;> cases sign' <;> first | rfl | cases hchar

/-- The grammar is unambiguous. -/
theorem derivation_unique {d d' : Derivation} (h : d.text = d'.text) : d = d' := by
  have hparts := readParts_text d
  rw [h, readParts_text d'] at hparts
  obtain ⟨-, htarget, hfilters⟩ := Parts.mk.inj (Except.ok.inj hparts)
  exact Derivation.ext (sign_of_text h) (target_value_inj htarget).symm
    ((List.map_inj_right fun _ _ => filter_value_inj).mp hfilters).symm

end HostFleet.Proofs
