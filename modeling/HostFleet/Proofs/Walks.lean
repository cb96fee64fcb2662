import HostFleet.Inventory.Walk
import Mathlib

/-!
# What walks reach

`Walk.visit` lists just the entities that edges lead to from its queue, whatever cycles, repeated
edges and ids without an entity there are. `Walk.chain` is the walk in which every entity has at
most one edge.
-/

namespace HostFleet.Proofs
open Walk Relation

variable {α : Type} {table : NameMap α} {edges : α → List String}

/-- The first id has an entity that lists the second. -/
def Edge (table : NameMap α) (edges : α → List String) (a b : String) : Prop :=
  ∃ x, table[a]? = some x ∧ b ∈ edges x

/-- What edges lead to from an id, the entity of the id itself included. -/
def Reaches (table : NameMap α) (edges : α → List String) (a : String) (x : α) : Prop :=
  ∃ b, ReflTransGen (Edge table edges) a b ∧ table[b]? = some x

section Visit

variable {seen queue : List String}

lemma visit_nil : visit table edges seen [] = [] := by
  rw [visit]

lemma visit_seen {id : String} {rest : List String} (h : id ∈ seen) :
    visit table edges seen (id :: rest) = visit table edges seen rest := by
  rw [visit, dif_pos (by simpa using h)]

lemma visit_absent {id : String} {rest : List String} (h : id ∉ seen)
    (hid : table[id]? = none) :
    visit table edges seen (id :: rest) = visit table edges (id :: seen) rest := by
  rw [visit, dif_neg (by simpa using h)]
  split
  · rfl
  · next heq => rw [hid] at heq; cases heq

lemma visit_entity {id : String} {rest : List String} {x : α} (h : id ∉ seen)
    (hid : table[id]? = some x) :
    visit table edges seen (id :: rest) =
      x :: visit table edges (id :: seen) (rest ++ edges x) := by
  rw [visit, dif_neg (by simpa using h)]
  split
  · next heq => rw [hid] at heq; cases heq
  · next y heq =>
    rw [hid] at heq
    cases heq
    rfl

/-- Each entity listed is reached from the queue under an id that was not seen before. -/
theorem visit_sound {x : α} (hx : x ∈ visit table edges seen queue) :
    ∃ a ∈ queue, ∃ b, ReflTransGen (Edge table edges) a b ∧ table[b]? = some x ∧ b ∉ seen := by
  fun_induction visit table edges seen queue with
  | case1 => cases hx
  | case2 seen id rest hseen ih =>
    obtain ⟨a, ha, hreach⟩ := ih hx
    exact ⟨a, List.mem_cons_of_mem _ ha, hreach⟩
  | case3 seen id rest hseen hid ih =>
    obtain ⟨a, ha, b, hab, hb, hfresh⟩ := ih hx
    exact ⟨a, List.mem_cons_of_mem _ ha, b, hab, hb, fun h => hfresh (List.mem_cons_of_mem _ h)⟩
  | case4 seen id rest hseen y hid _ ih =>
    rcases List.mem_cons.mp hx with rfl | hx
    · exact ⟨id, List.mem_cons_self, id, .refl, hid, by simpa using hseen⟩
    · obtain ⟨a, ha, b, hab, hb, hfresh⟩ := ih hx
      have hfresh' : b ∉ seen := fun h => hfresh (List.mem_cons_of_mem _ h)
      rcases List.mem_append.mp ha with ha | ha
      · exact ⟨a, List.mem_cons_of_mem _ ha, b, hab, hb, hfresh'⟩
      · exact ⟨id, List.mem_cons_self, b, .head ⟨y, hid, ha⟩ hab, hb, hfresh'⟩

/-- The ids of the queue and those that listed entities lead to are listed, unless they were seen
before. This is what makes a walk complete. -/
theorem visit_closed {b : String} {y : α} (hb : b ∉ seen) (hy : table[b]? = some y)
    (hlead : b ∈ queue ∨ ∃ x ∈ visit table edges seen queue, b ∈ edges x) :
    y ∈ visit table edges seen queue := by
  fun_induction visit table edges seen queue with
  | case1 => simp at hlead
  | case2 seen id rest hseen ih =>
    apply ih hb
    rcases hlead with hlead | hlead
    · rcases List.mem_cons.mp hlead with rfl | hlead
      · exact absurd (by simpa using hseen) hb
      · exact .inl hlead
    · exact .inr hlead
  | case3 seen id rest hseen hid ih =>
    have hne : b ≠ id := by
      rintro rfl
      rw [hid] at hy
      cases hy
    apply ih (by simp [hne, hb])
    rcases hlead with hlead | hlead
    · exact .inl ((List.mem_cons.mp hlead).resolve_left hne)
    · exact .inr hlead
  | case4 seen id rest hseen x hid _ ih =>
    by_cases hne : b = id
    · subst hne
      rw [hid] at hy
      cases hy
      exact List.mem_cons_self
    · apply List.mem_cons_of_mem
      apply ih (by simp [hne, hb])
      rcases hlead with hlead | ⟨z, hz, hbz⟩
      · exact .inl (List.mem_append_left _ ((List.mem_cons.mp hlead).resolve_left hne))
      · rcases List.mem_cons.mp hz with rfl | hz
        · exact .inl (List.mem_append_right _ hbz)
        · exact .inr ⟨z, hz, hbz⟩

end Visit

/-- A walk that nothing was seen before lists what the queue reaches. -/
theorem mem_visit_iff {queue : List String} {x : α} :
    x ∈ visit table edges [] queue ↔ ∃ a ∈ queue, Reaches table edges a x := by
  constructor
  · intro hx
    obtain ⟨a, ha, b, hab, hb, -⟩ := visit_sound hx
    exact ⟨a, ha, b, hab, hb⟩
  · rintro ⟨a, ha, b, hab, hb⟩
    induction hab generalizing x with
    | refl => exact visit_closed (List.not_mem_nil) hb (.inl ha)
    | tail _ hedge ih =>
      obtain ⟨y, hy, hby⟩ := hedge
      exact visit_closed (List.not_mem_nil) hb (.inr ⟨y, ih hy, hby⟩)

/-- A walk from an entity of the table lists what it reaches under other ids than its own. -/
theorem mem_walk_iff {start : String} {s x : α} (hs : table[start]? = some s) :
    x ∈ walk table edges start (edges s) ↔
      ∃ b, b ≠ start ∧ ReflTransGen (Edge table edges) start b ∧ table[b]? = some x := by
  constructor
  · intro hx
    obtain ⟨a, ha, b, hab, hb, hfresh⟩ := visit_sound hx
    exact ⟨b, by simpa using hfresh, .head ⟨s, hs, ha⟩ hab, hb⟩
  · rintro ⟨b, hne, hreach, hb⟩
    -- On the way to `b` only the start itself is not listed, and its edges are the queue.
    induction hreach generalizing x with
    | refl => exact absurd rfl hne
    | @tail c b _ hedge ih =>
      obtain ⟨y, hy, hby⟩ := hedge
      apply visit_closed (by simpa using hne) hb
      by_cases hc : c = start
      · subst hc
        rw [hs] at hy
        cases hy
        exact .inl hby
      · exact .inr ⟨y, ih hc hy, hby⟩

/-- An entity together with the walk from it is all that its id reaches. -/
theorem mem_cons_walk_iff {start : String} {s x : α} (hs : table[start]? = some s) :
    x ∈ s :: walk table edges start (edges s) ↔ Reaches table edges start x := by
  rw [List.mem_cons, mem_walk_iff hs]
  constructor
  · rintro (rfl | ⟨b, -, hreach, hb⟩)
    · exact ⟨start, .refl, hs⟩
    · exact ⟨b, hreach, hb⟩
  · rintro ⟨b, hreach, hb⟩
    by_cases hne : b = start
    · subst hne
      rw [hs] at hb
      cases hb
      exact .inl rfl
    · exact .inr ⟨b, hne, hreach, hb⟩

/-! ### Chains -/

variable {next : α → Option String}

/-- A chain is a walk along at most one edge at a time. -/
lemma chain_eq_visit (seen : List String) (id : Option String) :
    chain table next seen id = visit table (fun x => (next x).toList) seen id.toList := by
  fun_induction chain table next seen id with
  | case1 => exact visit_nil.symm
  | case2 seen id hseen =>
    rw [Option.toList_some, visit_seen (by simpa using hseen), visit_nil]
  | case3 seen id hseen hid =>
    rw [Option.toList_some, visit_absent (by simpa using hseen) hid, visit_nil]
  | case4 seen id hseen x hid _ ih =>
    rw [Option.toList_some, visit_entity (by simpa using hseen) hid, ih, List.nil_append]

theorem mem_chain_iff {id : Option String} {x : α} :
    x ∈ chain table next [] id ↔
      ∃ a, id = some a ∧ Reaches table (fun x => (next x).toList) a x := by
  rw [chain_eq_visit, mem_visit_iff]
  simp only [Option.mem_toList]

end HostFleet.Proofs
