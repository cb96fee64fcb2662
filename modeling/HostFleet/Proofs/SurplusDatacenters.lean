import HostFleet.Proofs.SelectorReading
import HostFleet.Proofs.SyntaxErrors

/-!
# Surplus datacenters

A token that names more than one datacenter is derived, but no selector is made of it. The place of
the error is looked for in the text, from the end: it is that of the last datacenter, since what
follows the last one has no `@` in it. The first datacenter that is too many is the second, so the
error stands there just when there is no third.
-/

namespace HostFleet.Proofs
open Selector

/-- The datacenters that some filters name. -/
def datacentersOf (fs : List FilterTree) : List String := datacenterNames (fs.map FilterTree.value)

/-- The size of the token up to where the filters that follow the first ones begin. -/
def Derivation.byteAfter (d : Derivation) (before : List FilterTree) : Nat :=
  Utf8.sizeOf (signText d.sign ++ (d.target.text ++ filtersText before))

/-- A filter that names a datacenter begins at this byte of the token, and `k` such filters stand
before it. -/
def Derivation.DatacenterAt (d : Derivation) (k byte : Nat) : Prop :=
  ∃ before name after, d.filters = before ++ .datacenter name :: after ∧
    (datacentersOf before).length = k ∧ byte = d.byteAfter before

/-! ### The last place of a character -/

lemma sizeOf_append (cs ds : List Char) :
    Utf8.sizeOf (cs ++ ds) = Utf8.sizeOf cs + Utf8.sizeOf ds := by
  simp only [sizeOf_eq_utf8Len, String.utf8Len_append]

lemma lastByteOf_append {c : Char} {front rest : List Char} (h : c ∉ rest) :
    lastByteOf c (front ++ c :: rest) = Utf8.sizeOf front := by
  have hrest : ∀ d ∈ rest.reverse, (d != c) = true := by
    intro d hd
    rw [List.mem_reverse] at hd
    exact bne_iff_ne.mpr fun heq => h (heq ▸ hd)
  have hreverse : (front ++ c :: rest).reverse = rest.reverse ++ c :: front.reverse := by simp
  have htake : (front ++ c :: rest).reverse.takeWhile (· != c) = rest.reverse := by
    rw [hreverse, List.takeWhile_append_of_pos hrest, List.takeWhile_cons, if_neg (by simp),
      List.append_nil]
  have hsize : Utf8.sizeOf (front ++ c :: rest) =
      Utf8.sizeOf front + (c.utf8Size + Utf8.sizeOf rest) := sizeOf_append front (c :: rest)
  have hlast : Utf8.sizeOf rest.reverse = Utf8.sizeOf rest := by
    rw [sizeOf_eq_utf8Len, sizeOf_eq_utf8Len, String.utf8Len_reverse]
  rw [lastByteOf, if_pos (by simp), htake, hsize, hlast]
  omega

/-! ### Filters without a datacenter -/

lemma not_mem_word {P : Char → Prop} {c : Char} (h : ¬P c) (w : Word P) : c ∉ w.chars :=
  fun hc => h (w.all c hc)

lemma datacentersOf_append (fs gs : List FilterTree) :
    datacentersOf (fs ++ gs) = datacentersOf fs ++ datacentersOf gs := by
  simp [datacentersOf, datacenterNames]

/-- Only the filter for a datacenter is written with an `@`. -/
lemma at_not_mem_filtersText {fs : List FilterTree} (h : datacentersOf fs = []) :
    '@' ∉ filtersText fs := by
  have hname : ¬NameChar '@' := by decide
  have hvalue : ¬ValueChar '@' := by decide
  induction fs with
  | nil => exact List.not_mem_nil
  | cons f fs ih =>
    have hsplit : datacentersOf (f :: fs) = datacentersOf [f] ++ datacentersOf fs :=
      datacentersOf_append [f] fs
    rw [hsplit, List.append_eq_nil_iff] at h
    rw [filtersText, List.flatMap_cons, List.mem_append, not_or]
    refine ⟨?_, ih h.2⟩
    cases f with
    | datacenter name => exact absurd h.1 (List.cons_ne_nil _ _)
    | tag name => simp [FilterTree.text, not_mem_word hname]
    | field key value => simp [FilterTree.text, not_mem_word hname, not_mem_word hvalue]

section Places

variable {d : Derivation} {before after more : List FilterTree} {name : Word NameChar}
  {k k' byte byte' : Nat}

lemma text_of_filters (h : d.filters = before ++ .datacenter name :: after) :
    d.text = (signText d.sign ++ (d.target.text ++ filtersText before)) ++
      '@' :: (name.chars ++ filtersText after) := by
  simp [Derivation.text, h, filtersText, FilterTree.text]

/-! ### The places of the datacenters -/

lemma exists_datacenter (fs : List FilterTree) (hk : k < (datacentersOf fs).length) :
    ∃ before name after, fs = before ++ .datacenter name :: after ∧
      (datacentersOf before).length = k := by
  induction fs generalizing k with
  | nil => exact absurd hk (Nat.not_lt_zero k)
  | cons f fs ih =>
    cases f with
    | datacenter name =>
      cases k with
      | zero => exact ⟨[], name, fs, rfl, rfl⟩
      | succ k =>
        obtain ⟨before, name', after, rfl, hlength⟩ := ih (Nat.lt_of_succ_lt_succ hk)
        exact ⟨.datacenter name :: before, name', after, rfl, congrArg Nat.succ hlength⟩
    | tag name =>
      obtain ⟨before, name', after, rfl, hlength⟩ := ih hk
      exact ⟨.tag name :: before, name', after, rfl, hlength⟩
    | field key value =>
      obtain ⟨before, name', after, rfl, hlength⟩ := ih hk
      exact ⟨.field key value :: before, name', after, rfl, hlength⟩

lemma exists_datacenterAt (hk : k < (datacentersOf d.filters).length) :
    ∃ byte, d.DatacenterAt k byte := by
  obtain ⟨before, name, after, hfilters, hlength⟩ := exists_datacenter d.filters hk
  exact ⟨_, before, name, after, hfilters, hlength, rfl⟩

/-- Beyond a datacenter there are more of them, and more bytes. -/
lemma lt_of_longer (hmore : more ≠ []) (h : .datacenter name :: after = more ++ after') :
    (datacentersOf before).length < (datacentersOf (before ++ more)).length ∧
      d.byteAfter before < d.byteAfter (before ++ more) := by
  obtain ⟨f, rest, rfl⟩ := List.exists_cons_of_ne_nil hmore
  obtain ⟨rfl, -⟩ := List.cons.inj h
  constructor
  · rw [datacentersOf_append, List.length_append]
    exact Nat.lt_add_of_pos_right (Nat.succ_pos _)
  · have hpos : 0 < '@'.utf8Size := Char.utf8Size_pos '@'
    have htext : Utf8.sizeOf (filtersText (.datacenter name :: rest)) =
        '@'.utf8Size + Utf8.sizeOf (name.chars ++ filtersText rest) := rfl
    have happend : filtersText (before ++ .datacenter name :: rest) =
        filtersText before ++ filtersText (.datacenter name :: rest) := List.flatMap_append
    simp only [Derivation.byteAfter, happend, sizeOf_append, htext]
    omega

/-- The datacenters stand in the token in their order. -/
lemma datacenterAt_cases (h : d.DatacenterAt k byte) (h' : d.DatacenterAt k' byte') :
    k < k' ∧ byte < byte' ∨ k = k' ∧ byte = byte' ∨ k' < k ∧ byte' < byte := by
  obtain ⟨before, name, after, hfilters, rfl, rfl⟩ := h
  obtain ⟨before', name', after', hfilters', rfl, rfl⟩ := h'
  rw [hfilters] at hfilters'
  rcases List.append_eq_append_iff.mp hfilters' with ⟨more, rfl, hrest⟩ | ⟨more, rfl, hrest⟩
  · by_cases hmore : more = []
    · rw [hmore, List.append_nil]
      exact .inr (.inl ⟨rfl, rfl⟩)
    · exact .inl (lt_of_longer hmore hrest)
  · by_cases hmore : more = []
    · rw [hmore, List.append_nil]
      exact .inr (.inl ⟨rfl, rfl⟩)
    · exact .inr (.inr (lt_of_longer hmore hrest))

/-- No datacenter follows the last one, so that the last `@` of the token is where it begins. -/
lemma datacenterAt_lastByteOf (h : (datacentersOf d.filters).length = k + 1) :
    d.DatacenterAt k (lastByteOf '@' d.text) := by
  obtain ⟨before, name, after, hfilters, hlength⟩ :=
    exists_datacenter d.filters (Nat.lt_of_lt_of_eq (Nat.lt_succ_self k) h.symm)
  have hafter : datacentersOf after = [] := by
    have hsplit : datacentersOf (.datacenter name :: after) =
        name.string :: datacentersOf after := rfl
    rw [hfilters, datacentersOf_append, hsplit, List.length_append, List.length_cons, hlength] at h
    exact List.length_eq_zero_iff.mp (by omega)
  have hrest : '@' ∉ name.chars ++ filtersText after := by
    rw [List.mem_append, not_or]
    exact ⟨not_mem_word (by decide) name, at_not_mem_filtersText hafter⟩
  refine ⟨before, name, after, hfilters, hlength, ?_⟩
  rw [text_of_filters hfilters, lastByteOf_append hrest]
  rfl

end Places

/-! ### The error -/

/-- The error of a derived token of which no selector can be made. -/
lemma parse_of_surplus {t : String} {d : Derivation} (hd : d.text = t.toList)
    (h : 1 < (datacentersOf d.filters).length) :
    parse t = .error ⟨t, lastByteOf '@' d.text, .secondDatacenter⟩ := by
  have hempty : d.text.isEmpty = false := List.isEmpty_eq_false_iff.mpr (text_ne_nil d)
  have hnone : d.parts.assemble? = none := by
    cases hparts : d.parts.assemble? with
    | none => rfl
    | some sel => exact absurd (assemble?_iff.mp hparts).1 (Nat.not_le.mpr h)
  simp only [parse, ofChars, ← hd, hempty, readParts_text, hnone, Bool.false_eq_true, if_false]
  rw [hd, String.ofList_toList]

/-- A token with two datacenters or more is refused at the last of them. That is the second one, the
first that is too many, just when there are two. -/
theorem surplus_datacenter_refused_at_last {t : String} {d : Derivation} (hd : d.text = t.toList)
    (h : 1 < (datacentersOf d.filters).length) :
    ∃ e second, parse t = .error e ∧ e.token = t ∧
      e.fault.text = "more than one datacenter filter" ∧
      d.DatacenterAt ((datacentersOf d.filters).length - 1) e.position ∧
      d.DatacenterAt 1 second ∧
      (e.position = second ↔ (datacentersOf d.filters).length = 2) := by
  obtain ⟨second, hsecond⟩ := exists_datacenterAt h
  have hlast := datacenterAt_lastByteOf (d := d) (Nat.sub_add_cancel (Nat.le_of_lt h)).symm
  refine ⟨_, second, parse_of_surplus hd h, rfl, rfl, hlast, hsecond, ?_⟩
  have hcases := datacenterAt_cases hlast hsecond
  change lastByteOf '@' d.text = second ↔ _
  omega

/-- Of three datacenters between other filters, the last is shown as the one that is too many. -/
theorem surplus_datacenter_refused_at_third : ∃ d : Derivation,
    d.text = "*@eu[k=v]@us#a@de".toList ∧ 1 < (datacentersOf d.filters).length ∧
      parse "*@eu[k=v]@us#a@de" = .error ⟨"*@eu[k=v]@us#a@de", 14, .secondDatacenter⟩ ∧
      d.DatacenterAt 2 14 ∧ d.DatacenterAt 1 9 := by
  let eu : Word NameChar := ⟨['e', 'u'], by simp, by simp [NameChar]⟩
  let us : Word NameChar := ⟨['u', 's'], by simp, by simp [NameChar]⟩
  let de : Word NameChar := ⟨['d', 'e'], by simp, by simp [NameChar]⟩
  let k : Word NameChar := ⟨['k'], by simp, by simp [NameChar]⟩
  let v : Word ValueChar := ⟨['v'], by simp, by simp [ValueChar, NameChar]⟩
  let a : Word NameChar := ⟨['a'], by simp, by simp [NameChar]⟩
  let front : List FilterTree := [.datacenter eu, .field k v]
  let d : Derivation := ⟨none, .entire,
    front ++ .datacenter us :: [.tag a, .datacenter de], by rintro - c ⟨⟩; decide⟩
  have hd : d.text = "*@eu[k=v]@us#a@de".toList := rfl
  have h : 1 < (datacentersOf d.filters).length := Nat.lt_succ_of_lt (Nat.lt_succ_self 1)
  have hsecond : d.DatacenterAt 1 9 := ⟨front, us, _, rfl, rfl, rfl⟩
  have hparse : parse "*@eu[k=v]@us#a@de" =
      .error ⟨"*@eu[k=v]@us#a@de", 14, .secondDatacenter⟩ := by cbv
  obtain ⟨e, second, herror, -, -, hlast, -⟩ := surplus_datacenter_refused_at_last hd h
  obtain rfl := Except.error.inj (hparse.symm.trans herror)
  exact ⟨d, hd, h, hparse, hlast, hsecond⟩

end HostFleet.Proofs
