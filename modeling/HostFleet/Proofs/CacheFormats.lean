import HostFleet.Proofs.SavedIndex

/-!
# Formats of the cache

Snapshots and completion indices are read back from what they are written as, by themselves and
with a time of saving. Nothing is asked of a snapshot. Of an index it is asked that the limits of
its completers are numbers of 64 bits, and of a time that it is read back from its own text.
-/

namespace HostFleet.Proofs
open Document

/-- The value is read back from its document, and from the text of its document. -/
structure ReadsBack {α : Type} (read : Document → Option α) (write : α → Document) (x : α) :
    Prop where
  document : read (write x) = some x
  text : (Json.read? (Json.encode (write x))).bind read = some x

section ReadsBack

variable {α : Type} {read : Document → Option α} {write : α → Document} {x : α}

/-- The text of a plain document loses nothing. -/
lemma readsBack_iff (h : Plain (write x)) : ReadsBack read write x ↔ read (write x) = some x := by
  have htext : (Json.read? (Json.encode (write x))).bind read = read (write x) := by
    rw [read?_encode h, Option.bind_some]
  constructor
  · intro hback
    exact hback.document
  · intro hdocument
    exact ⟨hdocument, htext.trans hdocument⟩

lemma plain_stamped {v : Stamped α} (h : Plain (write v.data)) : Plain (v.toDocument write) := by
  refine .record ?_
  simp [Plain.text, h]

/-- A value with its time is read back just when both are. -/
lemma readsBack_stamped_iff {time : Instant} (h : Plain (write x)) :
    ReadsBack (Stamped.ofDocument? read) (Stamped.toDocument write) ⟨time, x⟩ ↔
      Instant.parse? time.format = some time ∧ ReadsBack read write x := by
  have hplain : Plain (Stamped.toDocument write ⟨time, x⟩) := plain_stamped h
  rw [readsBack_iff hplain, readsBack_iff h, stamped_ofDocument?_eq_some_iff]

end ReadsBack

/-! ### Completers and indices -/

/-- A completer is read back just when its limit is a number of 64 bits. -/
lemma completer_ofDocument?_iff {c : Completer} :
    Completer.ofDocument? c.toDocument = some c ↔ Storable c := by
  constructor
  · intro hread
    by_contra hlarge
    have hmax : natBelow? (Nat.pow 2 64) (.int c.maxLen) = none := by
      rw [natBelow?, if_neg (by simpa [Storable] using hlarge)]
    rw [Completer.ofDocument?, Completer.toDocument, fields?_record, Option.bind_eq_bind,
      Option.bind_some, required_named rfl, hmax] at hread
    cases hread
  · exact completer_ofDocument?

/-- An index is read back just when each of its completers is. -/
lemma index_ofDocument?_iff {i : Index} :
    Index.ofDocument? i.toDocument = some i ↔ ∀ domain, Storable (i.completer domain) := by
  constructor
  · intro hread
    rw [Index.ofDocument?, Index.toDocument, fields?_record, Option.bind_eq_bind, Option.bind_some,
      required_named rfl, required_named rfl, required_named rfl, required_named rfl,
      required_named rfl, required_named rfl, required_named rfl] at hread
    simp only [Option.bind_eq_bind, Option.bind_eq_some_iff, Option.some.injEq] at hread
    obtain ⟨hosts, hhosts, groups, hgroups, projects, hprojects, datacenters, hdatacenters, tags,
      htags, keys, hkeys, values, hvalues, rfl⟩ := hread
    intro domain
    rw [← completer_ofDocument?_iff]
    cases domain
    · exact hhosts
    · exact hgroups
    · exact hprojects
    · exact hdatacenters
    · exact htags
    · exact hkeys
    · exact hvalues
  · exact index_ofDocument?

/-- Every snapshot is read back from its document and from the text of that, and every index whose
limits are numbers of 64 bits. With a time of saving they are read back just when the time is read
back from its own text. -/
theorem formats_readBack (s : Snapshot) (i : Index) (time : Instant) :
    ReadsBack Snapshot.ofDocument? Snapshot.toDocument s ∧
    (ReadsBack Index.ofDocument? Index.toDocument i ↔ ∀ domain, Storable (i.completer domain)) ∧
    (ReadsBack (Stamped.ofDocument? Snapshot.ofDocument?) (Stamped.toDocument Snapshot.toDocument)
        ⟨time, s⟩ ↔ Instant.parse? time.format = some time) ∧
    (ReadsBack (Stamped.ofDocument? Index.ofDocument?) (Stamped.toDocument Index.toDocument)
        ⟨time, i⟩ ↔
      Instant.parse? time.format = some time ∧ ∀ domain, Storable (i.completer domain)) := by
  have hsnapshot : ReadsBack Snapshot.ofDocument? Snapshot.toDocument s :=
    (readsBack_iff (plain_snapshot s)).mpr (snapshot_ofDocument? s)
  have hindex : ReadsBack Index.ofDocument? Index.toDocument i ↔
      ∀ domain, Storable (i.completer domain) :=
    (readsBack_iff (plain_index i)).trans index_ofDocument?_iff
  refine ⟨hsnapshot, hindex, ?_, ?_⟩
  · rw [readsBack_stamped_iff (plain_snapshot s), and_iff_left hsnapshot]
  · rw [readsBack_stamped_iff (plain_index i), hindex]

end HostFleet.Proofs
