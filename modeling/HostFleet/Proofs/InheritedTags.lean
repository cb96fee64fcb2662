import HostFleet.Proofs.EntityGraph
import HostFleet.Proofs.IndexLookups

/-!
# Inherited tags

A filter looks for a tag among those of the host, of its group and of all groups above. The index is
filled with the tags of the hosts alone, so a tag that hosts have from their groups only selects them
and is never completed.
-/

namespace HostFleet.Proofs
open Std

variable {store : Store} {tag start : String}

/-- Some host carries the tag itself. -/
def OwnTag (store : Store) (tag : String) : Prop := ∃ h ∈ store.hosts.all, tag ∈ h.tags

/-- Some host has the tag from its group or from a group above it. -/
def InheritedTag (store : Store) (tag : String) : Prop :=
  ∃ h ∈ store.hosts.all, ∃ g ∈ store.hostGroups h, tag ∈ g.tags

/-- Some host has the tag, by itself or from its groups, so that a filter by it can let a host pass. -/
def EffectiveTag (store : Store) (tag : String) : Prop :=
  ∃ h ∈ store.hosts.all, tag ∈ store.hostTags h

lemma effectiveTag_iff : EffectiveTag store tag ↔ OwnTag store tag ∨ InheritedTag store tag := by
  unfold EffectiveTag OwnTag InheritedTag
  simp only [mem_hostTags, and_or_left, exists_or]

lemma mem_tags_names_iff : tag ∈ store.names .tags ↔ OwnTag store tag := by
  rw [Store.names, List.mem_flatMap]
  rfl

/-- A tag is completed just when a host carries it itself. So all tags that hosts pass a filter by
are completed just when each that is inherited by one host is also carried by one. -/
theorem completes_effective_tags_iff (store : Store) :
    (∀ tag start, tag ≠ "" → start.toList <+: tag.toList →
      (tag ∈ (Index.ofStore store).tags.complete start ↔ OwnTag store tag)) ∧
    ((∀ tag start, tag ≠ "" → start.toList <+: tag.toList → EffectiveTag store tag →
        tag ∈ (Index.ofStore store).tags.complete start) ↔
      ∀ tag, tag ≠ "" → InheritedTag store tag → OwnTag store tag) := by
  have hcomplete : ∀ tag start, tag ≠ "" → start.toList <+: tag.toList →
      (tag ∈ (Index.ofStore store).tags.complete start ↔ OwnTag store tag) := by
    intro tag start hne hstarts
    rw [← mem_tags_names_iff]
    exact mem_complete_ofStore_iff_mem .tags hne hstarts
  refine ⟨hcomplete, ?_, ?_⟩
  · intro hall tag hne hinherited
    have hstarts : "".toList <+: tag.toList := List.nil_prefix
    rw [← hcomplete tag "" hne hstarts]
    exact hall tag "" hne hstarts (effectiveTag_iff.mpr (.inr hinherited))
  · intro hshared tag start hne hstarts heffective
    rw [hcomplete tag start hne hstarts]
    rcases effectiveTag_iff.mp heffective with hown | hinherited
    · exact hown
    · exact hshared tag hne hinherited

/-- A host with one tag of its own in a group with another. -/
def taggedSnapshot : Snapshot :=
  { groups := [⟨"1", "web", none, none, [], [], ["nginx"]⟩]
    hosts := [⟨"7", "a.x", none, some "1", none, none, ["edge"], []⟩] }

/-- The host passes a filter by each of the two tags, and one of them can be completed. -/
theorem completes_effective_tags_of_group_tag :
    let store := Store.ofSnapshot taggedSnapshot
    EffectiveTag store "edge" ∧ "edge" ∈ (Index.ofStore store).tags.complete "ed" ∧
    EffectiveTag store "nginx" ∧ "nginx" ∉ (Index.ofStore store).tags.complete "ng" := by
  intro store
  have hhosts : store.hosts.all = taggedSnapshot.hosts := by cbv
  have hgroups : ∀ h ∈ taggedSnapshot.hosts, store.hostGroups h = taggedSnapshot.groups := by
    intro h hh
    obtain rfl := List.mem_singleton.mp hh
    cbv
  obtain ⟨hcomplete, -⟩ := completes_effective_tags_iff store
  have hedge : OwnTag store "edge" := by
    rw [OwnTag, hhosts]
    decide
  have hnginx : ¬OwnTag store "nginx" := by
    rw [OwnTag, hhosts]
    decide
  refine ⟨effectiveTag_iff.mpr (.inl hedge), ?_, effectiveTag_iff.mpr (.inr ?_), ?_⟩
  · exact (hcomplete "edge" "ed" (by decide) (by decide)).mpr hedge
  · rw [InheritedTag, hhosts]
    refine ⟨_, List.mem_cons_self, ?_⟩
    rw [hgroups _ List.mem_cons_self]
    decide
  · exact mt (hcomplete "nginx" "ng" (by decide) (by decide)).mp hnginx

end HostFleet.Proofs
