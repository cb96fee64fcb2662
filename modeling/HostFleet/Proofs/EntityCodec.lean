import HostFleet.Inventory.Cache
import HostFleet.Inventory.Codec
import Mathlib

/-!
# Documents of inventory data

Each entity is read back from the document that it is written as, and so is a whole snapshot and
a value with its time.
-/

namespace HostFleet.Proofs
open Document

lemma mapM_map_some {α β : Type} {read : β → Option α} {write : α → β}
    (h : ∀ x, read (write x) = some x) (xs : List α) : (xs.map write).mapM read = some xs := by
  induction xs with
  | nil => rfl
  | cons x xs ih => simp [h, ih]

section Fields

variable {α : Type} {read : Document → Option α} {write : α → Document}
  {members : List (String × Document)} {d : Document} {i : Nat} {name : String}

/-- A member that alone has one of the names is the field. -/
lemma get_named {names : List String}
    (h : (members.filter fun m => names.contains m.1) = [(name, d)]) :
    (Fields.named members).get i names = some (some d) := by
  simp only [Fields.get, h]

lemma required_named (h : (members.filter fun m => [name].contains m.1) = [(name, d)]) :
    (Fields.named members).required i name read = read d := by
  rw [Fields.required, get_named h]

lemma optional_named {names : List String} {fallback : α}
    (h : (members.filter fun m => names.contains m.1) = [(name, d)]) :
    (Fields.named members).optional i names fallback read = read d := by
  rw [Fields.optional, get_named h]

/-- An optional text is read back. -/
lemma optionalText_named {o : Option String}
    (h : (members.filter fun m => [name].contains m.1) = [(name, ofOption o)]) :
    (Fields.named members).optionalText i name = some o := by
  rw [Fields.optionalText, optional_named h]
  cases o <;> rfl

/-- A list is read back when its items are. -/
lemma optionalList_named {names : List String} {xs : List α}
    (h : (members.filter fun m => names.contains m.1) = [(name, .list (xs.map write))])
    (hread : ∀ x, read (write x) = some x) :
    (Fields.named members).optionalList i names read = some xs := by
  rw [Fields.optionalList, optional_named h]
  exact mapM_map_some hread xs

lemma optionalTexts_named {names : List String} {xs : List String}
    (h : (members.filter fun m => names.contains m.1) = [(name, ofTexts xs)]) :
    (Fields.named members).optionalList i names text? = some xs :=
  optionalList_named h fun _ => rfl

end Fields

/-! ### Entities -/

theorem datacenter_ofDocument? (d : Datacenter) :
    Datacenter.ofDocument? d.toDocument = some d := by
  rw [Datacenter.ofDocument?, Datacenter.toDocument, fields?_record, Option.bind_eq_bind,
    Option.bind_some, required_named rfl, required_named rfl, optionalText_named rfl,
    optionalText_named rfl, optionalText_named rfl, optionalTexts_named rfl]
  rfl

theorem project_ofDocument? (p : Project) : Project.ofDocument? p.toDocument = some p := by
  rw [Project.ofDocument?, Project.toDocument, fields?_record, Option.bind_eq_bind,
    Option.bind_some, required_named rfl, required_named rfl, optionalText_named rfl,
    optionalText_named rfl, optionalText_named rfl, optionalText_named rfl]
  rfl

theorem hostGroup_ofDocument? (g : HostGroup) :
    HostGroup.ofDocument? g.toDocument = some g := by
  rw [HostGroup.ofDocument?, HostGroup.toDocument, fields?_record, Option.bind_eq_bind,
    Option.bind_some, required_named rfl, required_named rfl, optionalText_named rfl,
    optionalText_named rfl, optionalTexts_named rfl, optionalTexts_named rfl,
    optionalTexts_named rfl]
  rfl

theorem customField_ofDocument? (c : CustomField) :
    CustomField.ofDocument? c.toDocument = some c := by
  rw [CustomField.ofDocument?, CustomField.toDocument, fields?_record, Option.bind_eq_bind,
    Option.bind_some, required_named rfl, required_named rfl]
  rfl

theorem host_ofDocument? (h : Host) : Host.ofDocument? h.toDocument = some h := by
  rw [Host.ofDocument?, Host.toDocument, fields?_record, Option.bind_eq_bind, Option.bind_some,
    required_named rfl, required_named rfl, optionalText_named rfl, optionalText_named rfl,
    optionalText_named rfl, optionalText_named rfl, optionalTexts_named rfl,
    optionalList_named rfl customField_ofDocument?]
  rfl

/-- A snapshot is read back from its document. -/
theorem snapshot_ofDocument? (s : Snapshot) : Snapshot.ofDocument? s.toDocument = some s := by
  rw [Snapshot.ofDocument?, Snapshot.toDocument, fields?_record, Option.bind_eq_bind,
    Option.bind_some, optionalList_named rfl datacenter_ofDocument?,
    optionalList_named rfl project_ofDocument?, optionalList_named rfl hostGroup_ofDocument?,
    optionalList_named rfl host_ofDocument?]
  rfl

section Stamped

variable {α β : Type} {write : α → Document} {v : Stamped α}

/-- A value with its time is read by reading both. -/
lemma stamped_ofDocument?_eq (read : Document → Option β) :
    Stamped.ofDocument? read (v.toDocument write) =
      (Instant.parse? v.time.format).bind fun time =>
        (read (write v.data)).map fun data => ⟨time, data⟩ := by
  rw [Stamped.ofDocument?, Stamped.toDocument, fields?_record, Option.bind_eq_bind,
    Option.bind_some, required_named rfl, required_named rfl, text?, Option.bind_some]
  cases Instant.parse? v.time.format <;> cases read (write v.data) <;> rfl

lemma stamped_ofDocument?_eq_some_iff {read : Document → Option α} :
    Stamped.ofDocument? read (v.toDocument write) = some v ↔
      Instant.parse? v.time.format = some v.time ∧ read (write v.data) = some v.data := by
  obtain ⟨time, data⟩ := v
  simp [stamped_ofDocument?_eq, Option.bind_eq_some_iff]

/-- A value with its time is read back when both are. -/
theorem stamped_ofDocument? {read : Document → Option α}
    (htime : Instant.parse? v.time.format = some v.time)
    (hdata : read (write v.data) = some v.data) :
    Stamped.ofDocument? read (v.toDocument write) = some v :=
  stamped_ofDocument?_eq_some_iff.mpr ⟨htime, hdata⟩

/-- Nothing is read back when the value is not. -/
lemma stamped_ofDocument?_eq_none {read : Document → Option β} (hdata : read (write v.data) = none) :
    Stamped.ofDocument? read (v.toDocument write) = none := by
  rw [stamped_ofDocument?_eq, hdata]
  cases Instant.parse? v.time.format <;> rfl

end Stamped

end HostFleet.Proofs
