import HostFleet.Run.Aggregator
import HostFleet.Proofs.NameMaps

/-!
# Groups of equal outputs

An aggregator that groups keeps the hosts of each output together. Its groups have distinct
outputs, each lists its hosts in order, and a host is in the group of every output that it
reported. Where no host reports twice nothing else can be told of the reports from the groups,
neither their order nor how the groups were kept.
-/

namespace HostFleet.Proofs
open Std (Antisymm ExtTreeMap ExtTreeSet Irrefl OrientedCmp)
open Aggregator

/-- The groups of hosts that sent these reports. -/
structure Grouped (fs : List Finished) (gs : List OutputGroup) : Prop where
  distinct : (gs.map OutputGroup.output).Nodup
  written : ∀ g ∈ gs, g.output ≠ []
  inhabited : ∀ g ∈ gs, g.hosts ≠ []
  ascending : ∀ g ∈ gs, g.hosts.Pairwise (· < ·)
  ordered : gs.Pairwise fun g g' => g.hosts ≤ g'.hosts
  mem_iff : ∀ host output, (∃ g ∈ gs, g.output = output ∧ host ∈ g.hosts) ↔
    ∃ f ∈ fs, f.host = host ∧ outputOf f = output

/-! ### What groups tell of the reports -/

section Grouped

variable {fs fs' : List Finished} {gs gs' : List OutputGroup} {g g' : OutputGroup} {host : String}

/-- The group of an output lists the hosts that reported it. -/
lemma Grouped.mem_hosts_iff (h : Grouped fs gs) (hg : g ∈ gs) :
    host ∈ g.hosts ↔ ∃ f ∈ fs, f.host = host ∧ outputOf f = g.output := by
  rw [← h.mem_iff]
  constructor
  · exact fun hhost => ⟨g, hg, rfl, hhost⟩
  · rintro ⟨g', hg', heq, hhost⟩
    rwa [← List.inj_on_of_nodup_map h.distinct hg' hg heq]

/-- Where no host reports twice, a host is in the group of what it reported and in no other. -/
lemma Grouped.host_mem_iff (h : Grouped fs gs) (hd : (fs.map Finished.host).Nodup) (hg : g ∈ gs)
    {f : Finished} (hf : f ∈ fs) : f.host ∈ g.hosts ↔ outputOf f = g.output := by
  rw [h.mem_hosts_iff hg]
  constructor
  · rintro ⟨f', hf', hhost, houtput⟩
    rwa [← eq_of_key_eq hd hf' hf hhost]
  · exact fun houtput => ⟨f, hf, rfl, houtput⟩

lemma Grouped.eq_of_mem_hosts (h : Grouped fs gs) (hd : (fs.map Finished.host).Nodup)
    (hg : g ∈ gs) (hg' : g' ∈ gs) (hhost : host ∈ g.hosts) (hhost' : host ∈ g'.hosts) : g = g' := by
  obtain ⟨f, hf, rfl, houtput⟩ := (h.mem_hosts_iff hg).mp hhost
  have houtput' := (h.host_mem_iff hd hg' hf).mp hhost'
  exact List.inj_on_of_nodup_map h.distinct hg hg' (houtput.symm.trans houtput')

/-- Where no host reports twice, no two groups have the same hosts. -/
lemma Grouped.strictly_ordered (h : Grouped fs gs) (hd : (fs.map Finished.host).Nodup) :
    gs.Pairwise fun g g' => g.hosts < g'.hosts := by
  have hne : gs.Pairwise fun g g' => g.output ≠ g'.output := List.pairwise_map.mp h.distinct
  refine (h.ordered.and hne).imp_of_mem ?_
  rintro g g' hg hg' ⟨hle, hne⟩
  refine hle.lt_of_ne fun heq => hne ?_
  obtain ⟨host, hhost⟩ := List.exists_mem_of_ne_nil _ (h.inhabited g hg)
  exact congrArg _ (h.eq_of_mem_hosts hd hg hg' hhost (heq ▸ hhost))

/-- The same reports make the same groups. -/
lemma Grouped.subset (h : Grouped fs gs) (h' : Grouped fs' gs') (hmem : ∀ f, f ∈ fs ↔ f ∈ fs')
    (hg : g ∈ gs) : g ∈ gs' := by
  obtain ⟨host, hhost⟩ := List.exists_mem_of_ne_nil _ (h.inhabited g hg)
  obtain ⟨f, hf, hfhost⟩ := (h.mem_hosts_iff hg).mp hhost
  obtain ⟨g', hg', houtput, -⟩ := (h'.mem_iff host g.output).mpr ⟨f, (hmem f).mp hf, hfhost⟩
  have hhosts : g'.hosts = g.hosts := by
    refine (h'.ascending g' hg').eq_of_mem_iff (h.ascending g hg) fun host => ?_
    simp only [h.mem_hosts_iff hg, h'.mem_hosts_iff hg', houtput, hmem]
  obtain rfl : g' = g := by
    cases g
    cases g'
    cases houtput
    cases hhosts
    rfl
  exact hg'

/-- Reports of different hosts make the same groups in the same order, in whatever order they
come. -/
theorem Grouped.unique (h : Grouped fs gs) (h' : Grouped fs' gs')
    (hd : (fs.map Finished.host).Nodup) (hperm : fs.Perm fs') : gs = gs' := by
  have hd' : (fs'.map Finished.host).Nodup := (hperm.map _).nodup_iff.mp hd
  have hantisymm : Antisymm fun g g' : OutputGroup => g.hosts < g'.hosts :=
    ⟨fun g g' hlt hgt => absurd hgt hlt.asymm⟩
  have hirrefl : Irrefl fun g g' : OutputGroup => g.hosts < g'.hosts := ⟨fun g => lt_irrefl _⟩
  exact (h.strictly_ordered hd).eq_of_mem_iff (h'.strictly_ordered hd') fun g =>
    ⟨h.subset h' fun f => hperm.mem_iff, h'.subset h fun f => hperm.mem_iff.symm⟩

end Grouped

/-! ### What an aggregator keeps -/

/-- Under each output stand the hosts that reported it, and no entry is empty. -/
structure Keeps (outputs : ExtTreeMap Bytes NameSet) (fs : List Finished) : Prop where
  inhabited : ∀ (output : Bytes) (hosts : NameSet), outputs[output]? = some hosts →
    ∃ host, host ∈ hosts
  mem_iff : ∀ (output : Bytes) (host : String),
    (∃ hosts : NameSet, outputs[output]? = some hosts ∧ host ∈ hosts) ↔
      ∃ f ∈ fs, f.host = host ∧ outputOf f = output

section Keeps

variable {outputs : ExtTreeMap Bytes NameSet} {fs : List Finished} {a : Aggregator}

/-- No host is put under an empty output. -/
lemma outputOf_ne_nil (f : Finished) : outputOf f ≠ [] := by
  rw [outputOf]
  split
  · exact List.cons_ne_nil _ _
  · decide

lemma keeps_nil : Keeps ∅ [] where
  inhabited := by simp
  mem_iff := by simp

/-- An output has the hosts that reported it, if there are any. -/
lemma Keeps.getElem?_eq_some_iff (h : Keeps outputs fs) {output : Bytes} {hosts : NameSet} :
    outputs[output]? = some hosts ↔ (∃ host, host ∈ hosts) ∧
      ∀ host, host ∈ hosts ↔ ∃ f ∈ fs, f.host = host ∧ outputOf f = output := by
  constructor
  · intro hget
    exact ⟨h.inhabited output hosts hget, fun host => by simp [← h.mem_iff, hget]⟩
  · rintro ⟨⟨host, hhost⟩, hmem⟩
    obtain ⟨hosts', hget, -⟩ := (h.mem_iff output host).mpr ((hmem host).mp hhost)
    obtain rfl : hosts' = hosts := by
      refine ExtTreeSet.ext_mem fun host => ?_
      rw [hmem, ← h.mem_iff, hget]
      simp
    exact hget

/-- Nothing else is kept of reports than which hosts reported which outputs. -/
theorem Keeps.unique {outputs' : ExtTreeMap Bytes NameSet} {fs' : List Finished}
    (h : Keeps outputs fs) (h' : Keeps outputs' fs')
    (hmem : ∀ host output, (∃ f ∈ fs, f.host = host ∧ outputOf f = output) ↔
      ∃ f ∈ fs', f.host = host ∧ outputOf f = output) : outputs = outputs' := by
  refine ExtTreeMap.ext_getElem? fun output => Option.ext fun hosts => ?_
  rw [h.getElem?_eq_some_iff, h'.getElem?_eq_some_iff]
  simp only [hmem]

/-- A report puts its host under its output. -/
lemma Keeps.record (h : Keeps a.outputs fs) (hcollapse : a.collapse = true) (f : Finished) :
    Keeps (a.record f).outputs (fs ++ [f]) := by
  have hget : ∀ output, (a.record f).outputs[output]? = if outputOf f = output then
      some ((a.outputs[outputOf f]?.getD ∅).insert f.host) else a.outputs[output]? := by
    intro output
    simp [Aggregator.record, hcollapse, ExtTreeMap.getElem?_alter]
  constructor
  · intro output hosts hhosts
    rw [hget] at hhosts
    split at hhosts
    · obtain rfl := Option.some.inj hhosts
      exact ⟨f.host, by simp⟩
    · exact h.inhabited output hosts hhosts
  · intro output host
    have happend : (∃ f' ∈ fs ++ [f], f'.host = host ∧ outputOf f' = output) ↔
        (∃ f' ∈ fs, f'.host = host ∧ outputOf f' = output) ∨
          f.host = host ∧ outputOf f = output := by
      simp [or_and_right, exists_or]
    rw [hget, happend, ← h.mem_iff]
    by_cases heq : outputOf f = output
    · subst heq
      cases a.outputs[outputOf f]? <;> simp [or_comm]
    · simp [heq]

lemma compare_hosts_eq_lt {hosts hosts' : List String} :
    compare hosts hosts' = .lt ↔ hosts < hosts' := by
  change List.compareLex compare hosts hosts' = .lt ↔ _
  induction hosts generalizing hosts' with
  | nil => cases hosts' <;> simp [List.compareLex_nil_nil, List.compareLex_nil_cons]
  | cons host hosts ih =>
    cases hosts' with
    | nil => simp [List.compareLex_cons_nil]
    | cons host' hosts' =>
      rw [List.compareLex_cons_cons, Ordering.then_eq_lt, compare_lt_iff_lt, compare_eq_iff_eq, ih,
        List.cons_lt_cons_iff]

lemma le_iff {g g' : OutputGroup} : g.le g' = true ↔ g.hosts ≤ g'.hosts := by
  rw [OutputGroup.le, Ordering.isLE_iff_ne_gt, OrientedCmp.gt_iff_lt, compare_hosts_eq_lt]
  exact not_lt

lemma mem_groups {g : OutputGroup} : g ∈ a.groups ↔
    ∃ hosts : NameSet, a.outputs[g.output]? = some hosts ∧ g.hosts = hosts.toList := by
  rw [groups, List.mem_mergeSort, List.mem_map]
  constructor
  · rintro ⟨⟨output, hosts⟩, hmem, rfl⟩
    exact ⟨hosts, ExtTreeMap.mem_toList_iff_getElem?_eq_some.mp hmem, rfl⟩
  · rintro ⟨hosts, hget, hhosts⟩
    refine ⟨(g.output, hosts), ExtTreeMap.mem_toList_iff_getElem?_eq_some.mpr hget, ?_⟩
    dsimp only
    rw [← hhosts]

lemma groups_eq_nil (h : a.outputs = ∅) : a.groups = [] := by
  refine List.eq_nil_iff_forall_not_mem.mpr fun g hg => ?_
  obtain ⟨hosts, hget, -⟩ := mem_groups.mp hg
  simp [h] at hget

/-- The groups of an aggregator are those of the reports that it keeps. -/
theorem Keeps.grouped (h : Keeps a.outputs fs) : Grouped fs a.groups where
  distinct := by
    rw [groups, ((List.mergeSort_perm _ _).map OutputGroup.output).nodup_iff, List.map_map]
    exact List.pairwise_map.mpr (ExtTreeMap.distinct_keys_toList.imp fun hne heq =>
      hne (Std.compare_eq_iff_eq.mpr heq))
  written := by
    intro g hg
    obtain ⟨hosts, hget, -⟩ := mem_groups.mp hg
    obtain ⟨host, hhost⟩ := h.inhabited _ _ hget
    obtain ⟨f, -, -, houtput⟩ := (h.mem_iff _ _).mp ⟨hosts, hget, hhost⟩
    exact houtput ▸ outputOf_ne_nil f
  inhabited := by
    intro g hg
    obtain ⟨hosts, hget, hhosts⟩ := mem_groups.mp hg
    obtain ⟨host, hhost⟩ := h.inhabited _ _ hget
    exact hhosts ▸ List.ne_nil_of_mem (ExtTreeSet.mem_toList.mpr hhost)
  ascending := by
    intro g hg
    obtain ⟨hosts, -, hhosts⟩ := mem_groups.mp hg
    exact hhosts ▸ ExtTreeSet.ordered_toList.imp compare_lt_iff_lt.mp
  ordered := by
    refine (List.pairwise_mergeSort ?_ ?_ _).imp le_iff.mp
    · intro g g' g'' hle hle'
      exact le_iff.mpr ((le_iff.mp hle).trans (le_iff.mp hle'))
    · intro g g'
      rw [Bool.or_eq_true, le_iff, le_iff]
      exact le_total _ _
  mem_iff := by
    intro host output
    rw [← h.mem_iff]
    constructor
    · rintro ⟨g, hg, rfl, hhost⟩
      obtain ⟨hosts, hget, hhosts⟩ := mem_groups.mp hg
      exact ⟨hosts, hget, ExtTreeSet.mem_toList.mp (hhosts ▸ hhost)⟩
    · rintro ⟨hosts, hget, hhost⟩
      exact ⟨⟨hosts.toList, output⟩, mem_groups.mpr ⟨hosts, hget, rfl⟩, rfl,
        ExtTreeSet.mem_toList.mpr hhost⟩

end Keeps

end HostFleet.Proofs
