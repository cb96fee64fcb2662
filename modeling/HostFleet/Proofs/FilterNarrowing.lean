import HostFleet.Proofs.SelectionMeaning
import HostFleet.Proofs.SelectorReading

/-!
# Appended filters

Appending filters to a token adds their text to its derivation, and so narrows what it covers as
long as no field is written with two values. Where one is, only the value written last is asked
for, and the token may cover hosts that it did not cover before.
-/

namespace HostFleet.Proofs
open Std Relation Selector

/-- The host satisfies one filter. -/
def Satisfies (store : Store) (h : Host) : Filter → Prop
  | .datacenter name => store.hostInDatacenter h name = true
  | .tag name => name ∈ store.hostTags h
  | .field key value => ⟨key, value⟩ ∈ h.customFields

/-- No field is written with two values. -/
def OneValueEach (fs : List Filter) : Prop :=
  ∀ key value value', .field key value ∈ fs → .field key value' ∈ fs → value = value'

/-! ### What is written -/

section Written

variable {fs : List Filter}

lemma mem_datacenterNames {name : String} : name ∈ datacenterNames fs ↔ .datacenter name ∈ fs := by
  rw [datacenterNames, List.mem_filterMap]
  constructor
  · rintro ⟨f, hf, heq⟩
    cases f with
    | datacenter name' => rwa [← Option.some.inj heq]
    | tag name' => cases heq
    | field key value => cases heq
  · intro h
    exact ⟨_, h, rfl⟩

lemma mem_tagNames {name : String} : name ∈ tagNames fs ↔ .tag name ∈ fs := by
  rw [tagNames, List.mem_filterMap]
  constructor
  · rintro ⟨f, hf, heq⟩
    cases f with
    | datacenter name' => cases heq
    | tag name' => rwa [← Option.some.inj heq]
    | field key value => cases heq
  · intro h
    exact ⟨_, h, rfl⟩

lemma mem_fieldPairs {key value : String} :
    (key, value) ∈ fieldPairs fs ↔ .field key value ∈ fs := by
  rw [fieldPairs, List.mem_filterMap]
  constructor
  · rintro ⟨f, hf, heq⟩
    cases f with
    | datacenter name' => cases heq
    | tag name' => cases heq
    | field key' value' =>
      obtain ⟨rfl, rfl⟩ := Prod.mk.inj (Option.some.inj heq)
      exact hf
  · intro h
    exact ⟨_, h, rfl⟩

/-- The value written last is written. -/
lemma field_of_lastValue {key value : String} (h : lastValue key (fieldPairs fs) = some value) :
    .field key value ∈ fs := by
  obtain ⟨⟨k, v⟩, hlast, rfl⟩ := Option.map_eq_some_iff.mp h
  obtain rfl : k = key := key_of_lastAt hlast
  exact mem_fieldPairs.mp (mem_of_lastAt hlast)

/-- Of the values written for a field some is the last. -/
lemma exists_lastValue {key value : String} (h : .field key value ∈ fs) :
    ∃ last, lastValue key (fieldPairs fs) = some last ∧ .field key last ∈ fs := by
  obtain ⟨pair, hpair⟩ := exists_lastAt Prod.fst (mem_fieldPairs.mpr h)
  have hlast : lastValue key (fieldPairs fs) = some pair.2 := congrArg (Option.map Prod.snd) hpair
  exact ⟨pair.2, hlast, field_of_lastValue hlast⟩

lemma lastValue_of_oneValueEach (hone : OneValueEach fs) {key value : String}
    (h : .field key value ∈ fs) : lastValue key (fieldPairs fs) = some value := by
  obtain ⟨last, hlast, hmem⟩ := exists_lastValue h
  rw [hlast, hone key value last h hmem]

end Written

/-- A host passes a selector just when it satisfies the filters that are written, but of the
values for one field the last one only. -/
lemma passes_means_iff {d : Derivation} {sel : Selector} (hd : d.Means sel)
    (hone : (datacenterNames d.written).length ≤ 1) {store : Store} {h : Host} :
    store.passes sel h = true ↔
      (∀ name, .datacenter name ∈ d.written → Satisfies store h (.datacenter name)) ∧
      (∀ name, .tag name ∈ d.written → Satisfies store h (.tag name)) ∧
      ∀ key value, lastValue key (fieldPairs d.written) = some value →
        Satisfies store h (.field key value) := by
  rw [store_passes_iff]
  refine and_congr ?_ (and_congr ?_ ?_)
  · have hwritten := datacenter_iff.mpr ⟨hone, hd.datacenter⟩
    simp only [← mem_datacenterNames, ← hwritten, Option.mem_toList]
    rfl
  · cases htags : sel.tags with
    | none =>
      have hnil := hd.tags_none.mp htags
      simp [← mem_tagNames, hnil]
    | some tags =>
      simp only [Option.some.injEq, forall_eq', hd.tags tags htags, mem_tagNames]
      rfl
  · cases hfields : sel.fields with
    | none =>
      have hnil := hd.fields_none.mp hfields
      simp [hnil, lastValue]
    | some fields =>
      simp only [Option.some.injEq, forall_eq', hd.fields fields hfields]
      rfl

/-- A host that satisfies all that is written passes. -/
lemma passes_of_satisfies {d : Derivation} {sel : Selector} (hd : d.Means sel)
    (hone : (datacenterNames d.written).length ≤ 1) {store : Store} {h : Host}
    (hall : ∀ f ∈ d.written, Satisfies store h f) : store.passes sel h = true :=
  (passes_means_iff hd hone).mpr ⟨fun _ hmem => hall _ hmem, fun _ hmem => hall _ hmem,
    fun _ _ hlast => hall _ (field_of_lastValue hlast)⟩

/-- A host that passes satisfies all that is written if no field has two values. -/
lemma satisfies_of_passes {d : Derivation} {sel : Selector} (hd : d.Means sel)
    (hone : (datacenterNames d.written).length ≤ 1) (hvalues : OneValueEach d.written)
    {store : Store} {h : Host} (hpasses : store.passes sel h = true) :
    ∀ f ∈ d.written, Satisfies store h f := by
  obtain ⟨hdatacenter, htags, hfields⟩ := (passes_means_iff hd hone).mp hpasses
  intro f hf
  cases f with
  | datacenter name => exact hdatacenter name hf
  | tag name => exact htags name hf
  | field key value => exact hfields key value (lastValue_of_oneValueEach hvalues hf)

lemma getElem?_means {d : Derivation} {sel : Selector} (hd : d.Means sel) (key : String) :
    (sel.fields.getD ∅)[key]? = lastValue key (fieldPairs d.written) := by
  cases hfields : sel.fields with
  | none =>
    rw [hd.fields_none.mp hfields]
    rfl
  | some fields => exact hd.fields fields hfields key

/-! ### A host for every selector -/

def targetName : Target → String
  | .host name => name
  | .group name => name
  | .project name => name
  | .entire => "all"

/-- A host with all that a selector asks for. -/
def soleHost (sel : Selector) : Host :=
  { id := "h"
    fqdn := targetName sel.target
    shortName := none
    groupId := some "g"
    datacenterId := some "d"
    description := none
    tags := (sel.tags.getD ∅).toList
    customFields := (sel.fields.getD ∅).toList.map fun pair => ⟨pair.1, pair.2⟩ }

/-- An inventory of that host alone. -/
def soleSnapshot (sel : Selector) : Snapshot :=
  { datacenters := [⟨"d", sel.datacenter.getD "", none, none, none, []⟩]
    projects := [⟨"p", targetName sel.target, none, none, none, none⟩]
    groups := [⟨"g", targetName sel.target, none, some "p", [], [], []⟩]
    hosts := [soleHost sel] }

section Sole

variable {sel : Selector}

lemma soleSnapshot_distinctIds : DistinctIds (soleSnapshot sel) := by
  constructor <;> simp [soleSnapshot]

lemma soleHost_targets : Targets (soleSnapshot sel) sel.target (soleHost sel) := by
  have hbelow : ∀ g ∈ (soleSnapshot sel).groups, Below (soleSnapshot sel) g (soleHost sel) := by
    intro g hg
    obtain rfl := List.mem_singleton.mp hg
    exact ⟨_, .refl, rfl⟩
  cases htarget : sel.target with
  | host name =>
    rw [Targets, soleSnapshot, lastAt_cons]
    simp [soleHost, targetName, htarget]
  | group name =>
    refine ⟨_, ?_, hbelow _ (.head _)⟩
    rw [soleSnapshot, lastAt_cons]
    simp [targetName, htarget]
  | project name =>
    refine ⟨⟨"p", name, none, none, none, none⟩, ?_, _, .head _, rfl, hbelow _ (.head _)⟩
    rw [soleSnapshot, lastAt_cons]
    simp [targetName, htarget]
  | entire => exact ⟨_, .head _, _, .head _, rfl, hbelow _ (.head _)⟩

lemma mem_soleHost_fields {key value : String} :
    ⟨key, value⟩ ∈ (soleHost sel).customFields ↔ (sel.fields.getD ∅)[key]? = some value := by
  rw [soleHost, List.mem_map]
  constructor
  · rintro ⟨⟨k, v⟩, hmem, heq⟩
    obtain ⟨rfl, rfl⟩ := CustomField.mk.inj heq
    exact ExtTreeMap.mem_toList_iff_getElem?_eq_some.mp hmem
  · intro h
    exact ⟨(key, value), ExtTreeMap.mem_toList_iff_getElem?_eq_some.mpr h, rfl⟩

lemma soleHost_passes : Passes (soleSnapshot sel) sel (soleHost sel) := by
  refine ⟨fun name hname => ?_, fun tags htags tag htag => .inl ?_,
    fun fields hfields key value h => ?_⟩
  · exact ⟨_, .head _, rfl, _, .refl, by rw [hname]; rfl⟩
  · rw [soleHost, htags]
    exact ExtTreeSet.mem_toList.mpr htag
  · rw [mem_soleHost_fields, hfields]
    exact h

lemma soleHost_mem_targetHosts (sel : Selector) :
    soleHost sel ∈ (Store.ofSnapshot (soleSnapshot sel)).targetHosts sel.target :=
  (mem_targetHosts_iff soleSnapshot_distinctIds).mpr ⟨.head _, soleHost_targets⟩

lemma soleHost_mem_covers (sel : Selector) :
    (soleHost sel).fqdn ∈ (Store.ofSnapshot (soleSnapshot sel)).covers sel :=
  mem_covers_iff.mpr (.inr ⟨soleHost sel, soleHost_mem_targetHosts sel,
    (passes_iff soleSnapshot_distinctIds).mpr soleHost_passes, rfl⟩)

lemma eq_soleHost {target : Target} {h : Host}
    (hh : h ∈ (Store.ofSnapshot (soleSnapshot sel)).targetHosts target) : h = soleHost sel :=
  List.mem_singleton.mp ((mem_targetHosts_iff soleSnapshot_distinctIds).mp hh).1

end Sole

/-! ### Tokens with more filters -/

/-- The derivation with further filters at its end. -/
def Derivation.append (d : Derivation) (us : List FilterTree) : Derivation :=
  { d with filters := d.filters ++ us }

lemma text_append (d : Derivation) (us : List FilterTree) :
    (d.append us).text = d.text ++ filtersText us := by
  simp [Derivation.append, Derivation.text, filtersText]

lemma written_append (d : Derivation) (us : List FilterTree) :
    (d.append us).written = d.written ++ us.map FilterTree.value := by
  simp [Derivation.append, Derivation.written]

/-- Filters other than datacenters can be appended to every token. -/
lemma parse_append {t : String} {sel : Selector} (hparse : parse t = .ok sel) {d : Derivation}
    (hd : d.text = t.toList) {us : List FilterTree} (hus : ∀ u ∈ us, ∀ n, u ≠ .datacenter n) :
    ∃ sel', parse (t ++ String.ofList (filtersText us)) = .ok sel' ∧
      (d.append us).Means sel' ∧ (datacenterNames (d.append us).written).length ≤ 1 := by
  obtain ⟨d', hd', hsel⟩ := parse_eq_ok_iff.mp hparse
  obtain rfl := derivation_unique (hd.trans hd'.symm)
  have hnone : datacenterNames (us.map FilterTree.value) = [] := by
    rw [List.eq_nil_iff_forall_not_mem]
    intro name hname
    obtain ⟨u, hu, heq⟩ := List.mem_map.mp (mem_datacenterNames.mp hname)
    cases u with
    | datacenter n => exact hus _ hu n rfl
    | tag n => cases heq
    | field key value => cases heq
  have hone : (datacenterNames (d.append us).written).length ≤ 1 := by
    rw [written_append, datacenterNames, List.filterMap_append, ← datacenterNames,
      ← datacenterNames, hnone, List.append_nil]
    exact (assemble?_iff.mp hsel).1
  obtain ⟨sel', hsel'⟩ := assemble?_isSome_iff.mpr hone
  refine ⟨sel', parse_eq_ok_iff.mpr ⟨d.append us, ?_, hsel'⟩, (assemble?_iff.mp hsel').2, hone⟩
  rw [text_append, hd, String.toList_append, String.toList_ofList]

/-- With a tag or a field to ask for, only hosts of the inventory are covered. -/
lemma host_of_covers {d : Derivation} {sel : Selector} (hd : d.Means sel)
    (hfilters : tagNames d.written ≠ [] ∨ fieldPairs d.written ≠ []) {store : Store} {f : String}
    (hf : f ∈ store.covers sel) :
    ∃ h ∈ store.targetHosts sel.target, store.passes sel h = true ∧ h.fqdn = f := by
  rcases mem_covers_iff.mp hf with ⟨-, -, hnone⟩ | hhost
  · obtain ⟨-, htags, hfields⟩ := hasFilters_eq_false_iff.mp hnone
    rcases hfilters with hne | hne
    · exact absurd (hd.tags_none.mp htags) hne
    · exact absurd (hd.fields_none.mp hfields) hne
  · exact hhost

/-- One host cannot have two values for a field that its selector names. -/
lemma oneValueEach_of_soleHost {fs : List Filter} {sel : Selector} {store : Store}
    (hall : ∀ f ∈ fs, Satisfies store (soleHost sel) f) : OneValueEach fs := by
  intro key value value' hv hv'
  have hvalue := mem_soleHost_fields.mp (hall _ hv)
  have hvalue' := mem_soleHost_fields.mp (hall _ hv')
  exact Option.some.inj (hvalue.symm.trans hvalue')

/-- What the host of one selector needs to pass another. -/
lemma lastValue_of_soleHost {d d' : Derivation} {sel sel' : Selector} (hd : d.Means sel)
    (hone : (datacenterNames d.written).length ≤ 1) (hd' : d'.Means sel') {store : Store}
    (hpasses : store.passes sel (soleHost sel') = true) {key value : String}
    (hlast : lastValue key (fieldPairs d.written) = some value) :
    lastValue key (fieldPairs d'.written) = some value := by
  have hfield := ((passes_means_iff hd hone).mp hpasses).2.2 key value hlast
  rw [← getElem?_means hd']
  exact mem_soleHost_fields.mp hfield

lemma append_hasFilters (d : Derivation) {us : List FilterTree} (hne : us ≠ [])
    (hus : ∀ u ∈ us, ∀ n, u ≠ .datacenter n) :
    tagNames (d.append us).written ≠ [] ∨ fieldPairs (d.append us).written ≠ [] := by
  obtain ⟨u, rest, rfl⟩ := List.exists_cons_of_ne_nil hne
  have hmem : u.value ∈ (d.append (u :: rest)).written := by
    rw [written_append]
    simp
  cases u with
  | datacenter n => exact absurd rfl (hus _ (.head _) n)
  | tag n => exact .inl (List.ne_nil_of_mem (mem_tagNames.mpr hmem))
  | field key value => exact .inr (List.ne_nil_of_mem (mem_fieldPairs.mpr hmem))

/-- What a token covers with filters appended. It parses, and the hosts that it covers were all
covered before and satisfy all that is written, in every store, just when no field is written
with two values. That they were all covered before depends on less: each value asked for before
has to be asked for still. -/
theorem covers_append_iff {t : String} {sel : Selector} (hparse : parse t = .ok sel)
    {d : Derivation} (hd : d.text = t.toList) {us : List FilterTree} (hne : us ≠ [])
    (hus : ∀ u ∈ us, ∀ n, u ≠ .datacenter n) :
    ∃ sel', parse (t ++ String.ofList (filtersText us)) = .ok sel' ∧
      ((∀ (store : Store) (f : String), f ∈ store.covers sel' → f ∈ store.covers sel ∧
          ∃ h ∈ store.targetHosts sel.target, h.fqdn = f ∧
            ∀ filter ∈ d.written ++ us.map FilterTree.value, Satisfies store h filter) ↔
        OneValueEach (d.written ++ us.map FilterTree.value)) ∧
      ((∀ (store : Store) (f : String), f ∈ store.covers sel' → f ∈ store.covers sel) ↔
        ∀ key value, lastValue key (fieldPairs d.written) = some value →
          lastValue key (fieldPairs (d.written ++ us.map FilterTree.value)) = some value) := by
  obtain ⟨sel', hparse', hmeans', hone'⟩ := parse_append hparse hd hus
  obtain ⟨d', hd', hsel⟩ := parse_eq_ok_iff.mp hparse
  obtain rfl := derivation_unique (hd.trans hd'.symm)
  obtain ⟨hone, hmeans⟩ := assemble?_iff.mp hsel
  have htarget : sel'.target = sel.target := hmeans'.target.trans hmeans.target.symm
  have hhost : ∀ {store : Store} {f : String}, f ∈ store.covers sel' →
      ∃ h ∈ store.targetHosts sel'.target, store.passes sel' h = true ∧ h.fqdn = f :=
    host_of_covers hmeans' (append_hasFilters d hne hus)
  have hsubset : ∀ f ∈ d.written, f ∈ (d.append us).written := by
    intro f hf
    rw [written_append]
    exact List.mem_append_left _ hf
  rw [← written_append]
  refine ⟨sel', hparse', ⟨fun hall => ?_, fun hvalues => ?_⟩, ⟨fun hall => ?_, fun hlast => ?_⟩⟩
  · obtain ⟨-, h, hh, -, hsatisfies⟩ := hall _ _ (soleHost_mem_covers sel')
    obtain rfl := eq_soleHost hh
    exact oneValueEach_of_soleHost hsatisfies
  · intro store f hf
    obtain ⟨h, hh, hpasses, rfl⟩ := hhost hf
    rw [htarget] at hh
    have hsatisfies := satisfies_of_passes hmeans' hone' hvalues hpasses
    have hbefore := passes_of_satisfies hmeans hone fun f hf => hsatisfies f (hsubset f hf)
    exact ⟨mem_covers_iff.mpr (.inr ⟨h, hh, hbefore, rfl⟩), h, hh, rfl, hsatisfies⟩
  · intro key value hlast
    have hcovered := hall _ _ (soleHost_mem_covers sel')
    have hsole := soleHost_mem_targetHosts sel'
    rw [htarget] at hsole
    rcases mem_covers_iff.mp hcovered with ⟨-, hnil, -⟩ | ⟨h, hh, hpasses, -⟩
    · rw [hnil] at hsole
      cases hsole
    · obtain rfl := eq_soleHost hh
      exact lastValue_of_soleHost hmeans hone hmeans' hpasses hlast
  · intro store f hf
    obtain ⟨h, hh, hpasses, rfl⟩ := hhost hf
    rw [htarget] at hh
    obtain ⟨hdatacenter, htags, hfields⟩ := (passes_means_iff hmeans' hone').mp hpasses
    have hbefore : store.passes sel h = true := (passes_means_iff hmeans hone).mpr
      ⟨fun n hn => hdatacenter n (hsubset _ hn), fun n hn => htags n (hsubset _ hn),
        fun key value hv => hfields key value (hlast key value hv)⟩
    exact mem_covers_iff.mpr (.inr ⟨h, hh, hbefore, rfl⟩)

/-- A second value for a field lets hosts in that the first one kept out. -/
theorem covers_append_iff_of_two_values : ∃ sel sel',
    parse "*[k=a]" = .ok sel ∧ parse "*[k=a][k=b]" = .ok sel' ∧
      ∃ (store : Store) (f : String), f ∈ store.covers sel' ∧ f ∉ store.covers sel := by
  let k : Word NameChar := ⟨['k'], by decide, List.forall_mem_singleton.mpr (by decide)⟩
  let a : Word ValueChar := ⟨['a'], by decide, List.forall_mem_singleton.mpr (by decide)⟩
  let b : Word ValueChar := ⟨['b'], by decide, List.forall_mem_singleton.mpr (by decide)⟩
  let d : Derivation := ⟨none, .entire, [.field k a], by rintro - c ⟨⟩; decide⟩
  have htext : d.text = "*[k=a]".toList := by decide
  obtain ⟨sel, hsel⟩ := assemble?_isSome_iff (d := d).mpr (by decide)
  have hparse : parse "*[k=a]" = .ok sel := parse_eq_ok_iff.mpr ⟨d, htext, hsel⟩
  obtain ⟨sel', hparse', -, hnarrow⟩ := covers_append_iff hparse htext
    (List.cons_ne_nil (.field k b) []) (by simp)
  have happend : "*[k=a]" ++ String.ofList (filtersText [.field k b]) = "*[k=a][k=b]" := by decide
  rw [happend] at hparse'
  have hkept : ¬∀ key value, lastValue key (fieldPairs d.written) = some value →
      lastValue key (fieldPairs (d.written ++ [FilterTree.field k b].map FilterTree.value)) =
        some value := by
    intro h
    exact absurd (h "k" "a" (by decide)) (by decide)
  rw [← hnarrow] at hkept
  obtain ⟨store, hstore⟩ := not_forall.mp hkept
  obtain ⟨f, hf⟩ := not_forall.mp hstore
  exact ⟨sel, sel', hparse, hparse', store, f, Classical.not_imp.mp hf⟩

end HostFleet.Proofs
