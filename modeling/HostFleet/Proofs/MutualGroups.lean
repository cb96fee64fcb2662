import HostFleet.Description
import HostFleet.Proofs.SelectionMeaning

/-!
# Down and up the graph of groups

A selection walks down from a group along children, and a description walks up from a host along
parents. Where both ends of an edge list it the two walks are converse to each other, whatever
cycles and missing groups there are: a host is selected by just the groups that its description
names, and it has the tags of all of them.
-/

namespace HostFleet.Proofs
open Std Relation

variable {s : Snapshot}

/-- Of two groups one lists the other as its child just when that one lists it as its parent. Ids
that name no group of the snapshot may be listed at one end alone. -/
def MutualEdges (s : Snapshot) : Prop :=
  ∀ a ∈ s.groups, ∀ b ∈ s.groups, b.id ∈ a.childIds ↔ a.id ∈ b.parentIds

/-- What one walk finds from an end of a path the other one finds from the other end. -/
theorem descends_iff_ascends (hmutual : MutualEdges s) {a b : HostGroup} :
    ReflTransGen (Links s.groups HostGroup.id HostGroup.childIds) a b ↔
      ReflTransGen (Links s.groups HostGroup.id HostGroup.parentIds) b a :=
  reflTransGen_links_comm hmutual

/-- A host lies below just the groups that are listed for it. -/
theorem below_iff_mem_hostGroups (hd : DistinctIds s) (hmutual : MutualEdges s) {g : HostGroup}
    (hg : g ∈ s.groups) {h : Host} : Below s g h ↔ g ∈ (Store.ofSnapshot s).hostGroups h := by
  rw [mem_hostGroups_iff hd]
  constructor
  · rintro ⟨g', hdown, howner⟩
    exact ⟨g', mem_of_links hg hdown, howner, (descends_iff_ascends hmutual).mp hdown⟩
  · rintro ⟨g', -, howner, hup⟩
    exact ⟨g', (descends_iff_ascends hmutual).mpr hup, howner⟩

/-- With distinct names, the description of a host tells of the groups and tags that the store
lists for it. -/
lemma describe_of_mem (hhosts : (s.hosts.map Host.fqdn).Nodup) (hd : DistinctIds s) {h : Host}
    (hh : h ∈ s.hosts) : ∃ d, (Store.ofSnapshot s).describe h.fqdn = .ok d ∧
      d.groups = ExtTreeSet.ofList (((Store.ofSnapshot s).hostGroups h).map HostGroup.name) ∧
      d.tags = (Store.ofSnapshot s).hostTags h := by
  have hfound : (Store.ofSnapshot s).hosts.find? h.fqdn = some h := by
    rw [ofSnapshot_hosts, catalogOf_find?_of_nodup hd.hosts, lastAt_of_nodup hhosts hh]
  rw [Store.describe, hfound]
  exact ⟨_, rfl, rfl, rfl⟩

/-- With distinct names, the name of a group stands for that group alone. -/
lemma mem_groupNames_iff (hgroups : (s.groups.map HostGroup.name).Nodup) (hd : DistinctIds s)
    {g : HostGroup} (hg : g ∈ s.groups) {h : Host} :
    g.name ∈ (ExtTreeSet.ofList (((Store.ofSnapshot s).hostGroups h).map HostGroup.name) :
      NameSet) ↔ g ∈ (Store.ofSnapshot s).hostGroups h := by
  rw [ExtTreeSet.mem_ofList, List.contains_iff_mem, List.mem_map]
  constructor
  · rintro ⟨g', hg', hname⟩
    have hmem : g' ∈ s.groups := by
      obtain ⟨g₀, hg₀, -, hup⟩ := (mem_hostGroups_iff hd).mp hg'
      exact mem_of_links hg₀ hup
    rw [← eq_of_key_eq hgroups hmem hg hname]
    exact hg'
  · intro hmem
    exact ⟨g, hmem, rfl⟩

lemma mem_covers_group_iff (hgroups : (s.groups.map HostGroup.name).Nodup) (hd : DistinctIds s)
    {g : HostGroup} (hg : g ∈ s.groups) {sel : Selector} (htarget : sel.target = .group g.name)
    {f : String} : f ∈ (Store.ofSnapshot s).covers sel ↔
      ∃ h ∈ s.hosts, h.fqdn = f ∧ Below s g h ∧ Passes s sel h := by
  have hlast : lastAt HostGroup.name g.name s.groups = some g := lastAt_of_nodup hgroups hg
  simp only [mem_covers_iff, htarget, mem_targetHosts_iff hd, passes_iff hd, Targets, hlast,
    Option.some.injEq, exists_eq_left', reduceCtorEq, false_and, false_or]
  constructor
  · rintro ⟨h, ⟨hh, hbelow⟩, hpasses, hname⟩
    exact ⟨h, hh, hname, hbelow, hpasses⟩
  · rintro ⟨h, hh, hname, hbelow, hpasses⟩
    exact ⟨h, ⟨hh, hbelow⟩, hpasses, hname⟩

/-- A host has the tags of each of its groups. -/
lemma mem_hostTags_of_group {store : Store} {h : Host} {g : HostGroup}
    (hg : g ∈ store.hostGroups h) {tag : String} (htag : tag ∈ g.tags) :
    tag ∈ store.hostTags h :=
  mem_hostTags.mpr (.inr ⟨g, hg, htag⟩)

/-- A group selects a host just when the host's description names the group, and then the
description has all tags of the group: to ask for some of these tags takes no host away. -/
theorem covers_group_iff_described (hd : DistinctIds s)
    (hgroups : (s.groups.map HostGroup.name).Nodup) (hhosts : (s.hosts.map Host.fqdn).Nodup)
    (hmutual : MutualEdges s) {h : Host} (hh : h ∈ s.hosts) {g : HostGroup} (hg : g ∈ s.groups)
    (exclude : Bool) : ∃ d, (Store.ofSnapshot s).describe h.fqdn = .ok d ∧
      (h.fqdn ∈ (Store.ofSnapshot s).covers ⟨.group g.name, exclude, none, none, none⟩ ↔
        g.name ∈ d.groups) ∧
      (g.name ∈ d.groups → ∀ tag ∈ g.tags, tag ∈ d.tags) ∧
      ∀ tags : NameSet, (∀ tag ∈ tags, tag ∈ g.tags) →
        (Store.ofSnapshot s).covers ⟨.group g.name, exclude, none, some tags, none⟩ =
          (Store.ofSnapshot s).covers ⟨.group g.name, exclude, none, none, none⟩ := by
  obtain ⟨d, hdescribe, hnames, htags⟩ := describe_of_mem hhosts hd hh
  have hnamed : g.name ∈ d.groups ↔ Below s g h := by
    rw [hnames, mem_groupNames_iff hgroups hd hg, below_iff_mem_hostGroups hd hmutual hg]
  refine ⟨d, hdescribe, ?_, ?_, ?_⟩
  · rw [mem_covers_group_iff hgroups hd hg rfl, hnamed]
    constructor
    · rintro ⟨h', hh', hname, hbelow, -⟩
      obtain rfl := eq_of_key_eq hhosts hh' hh hname
      exact hbelow
    · intro hbelow
      exact ⟨h, hh, rfl, hbelow, by simp, by simp, by simp⟩
  · intro hname tag htag
    rw [hnamed, below_iff_mem_hostGroups hd hmutual hg] at hname
    rw [htags]
    exact mem_hostTags_of_group hname htag
  · intro tags hown
    refine ExtTreeSet.ext_mem fun f => ?_
    rw [mem_covers_group_iff hgroups hd hg rfl, mem_covers_group_iff hgroups hd hg rfl]
    constructor
    · rintro ⟨h', hh', hname, hbelow, -⟩
      exact ⟨h', hh', hname, hbelow, by simp, by simp, by simp⟩
    · rintro ⟨h', hh', hname, hbelow, -⟩
      refine ⟨h', hh', hname, hbelow, by simp, ?_, by simp⟩
      rintro tags' ⟨⟩ tag htag
      rw [← mem_hostTags_iff hd]
      exact mem_hostTags_of_group ((below_iff_mem_hostGroups hd hmutual hg).mp hbelow)
        (hown tag htag)

/-- In a ring of groups, one of them with a child that is missing, a host of one group is selected
by the other, which its description names, and has the tags of that. -/
theorem covers_group_iff_described_of_ring : ∃ h g d, h ∈ ringSnapshot.hosts ∧
    g ∈ ringSnapshot.groups ∧ h.groupId ≠ some g.id ∧ MutualEdges ringSnapshot ∧
    (Store.ofSnapshot ringSnapshot).describe h.fqdn = .ok d ∧ g.name ∈ d.groups ∧
    "prod" ∈ d.tags ∧
    h.fqdn ∈ (Store.ofSnapshot ringSnapshot).covers ⟨.group g.name, false, none, none, none⟩ ∧
    h.fqdn ∈ (Store.ofSnapshot ringSnapshot).covers
      ⟨.group g.name, false, none, some {"prod"}, none⟩ := by
  have hd : DistinctIds ringSnapshot := by
    constructor <;> decide
  have hmutual : MutualEdges ringSnapshot := by
    unfold MutualEdges
    decide
  have hh : ⟨"7", "a.x", none, some "2", none, none, [], []⟩ ∈ ringSnapshot.hosts := .head _
  have hg : ⟨"1", "web", none, none, ["2"], ["2", "9"], ["prod"]⟩ ∈ ringSnapshot.groups := .head _
  obtain ⟨d, hdescribe, hselects, htags, hfilter⟩ :=
    covers_group_iff_described hd (by decide) (by decide) hmutual hh hg false
  have hcovers : "a.x" ∈ (Store.ofSnapshot ringSnapshot).covers
      ⟨.group "web", false, none, none, none⟩ := by
    rw [mem_covers_group_iff (by decide) hd hg rfl]
    refine ⟨_, hh, rfl, ⟨_, .single ⟨hg, .tail _ (.head _), .head _⟩, rfl⟩, ?_, ?_, ?_⟩ <;> simp
  have hname := hselects.mp hcovers
  refine ⟨_, _, d, hh, hg, by decide, hmutual, hdescribe, hname, htags hname _ (.head _), hcovers,
    ?_⟩
  rw [hfilter]
  · exact hcovers
  · intro tag htag
    obtain rfl : "prod" = tag := by simpa using htag
    exact .head _

end HostFleet.Proofs
