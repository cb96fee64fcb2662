import HostFleet.Names

/-!
# Walks along edges

`walk` visits what can be reached from a start, nearest first and each id once, however many
paths lead to it. `chain` follows one edge at a time. Edges may form cycles and may lead nowhere.
-/

namespace HostFleet.Walk

variable {α : Type}

/-- The ids of the table that are not among `seen`. -/
def unseen (table : NameMap α) (seen : List String) : List String :=
  table.keys.filter fun id => !seen.contains id

theorem unseen_cons (table : NameMap α) (seen : List String) (id : String) :
    unseen table (id :: seen) = (unseen table seen).filter fun k => k != id := by
  simp only [unseen, List.filter_filter]
  congr 1
  funext k
  simp only [List.contains_cons, Bool.not_or, bne]

theorem length_unseen_le (table : NameMap α) (seen : List String) (id : String) :
    (unseen table (id :: seen)).length ≤ (unseen table seen).length := by
  rw [unseen_cons]
  exact List.length_filter_le _ _

theorem length_unseen_lt {table : NameMap α} {seen : List String} {id : String} {entity : α}
    (hid : table[id]? = some entity) (hnew : ¬ seen.contains id = true) :
    (unseen table (id :: seen)).length < (unseen table seen).length := by
  have hkey : id ∈ table := Std.ExtTreeMap.mem_iff_isSome_getElem?.2 (by simp [hid])
  have hmem : id ∈ unseen table seen := by
    simp only [unseen, List.mem_filter, Std.ExtTreeMap.mem_keys, hkey, true_and]
    simpa using hnew
  rw [unseen_cons]
  exact List.length_filter_lt_length_iff_exists.2 ⟨id, hmem, by simp⟩

/-- What the ids of the queue and everything reachable from them name in the table, in the order
of a breadth-first walk. Ids among `seen` are passed over. -/
def visit (table : NameMap α) (edges : α → List String) (seen queue : List String) : List α :=
  match queue with
  | [] => []
  | id :: rest =>
    if hseen : seen.contains id then visit table edges seen rest
    else match h : table[id]? with
      | none => visit table edges (id :: seen) rest
      | some entity =>
        have := length_unseen_lt h hseen
        entity :: visit table edges (id :: seen) (rest ++ edges entity)
termination_by ((unseen table seen).length, queue.length)
decreasing_by
  · exact Prod.Lex.right _ (by simp)
  · rcases Nat.lt_or_eq_of_le (length_unseen_le table seen id) with hlt | heq
    · exact Prod.Lex.left _ _ hlt
    · rw [heq]
      exact Prod.Lex.right _ (by simp)
  · exact Prod.Lex.left _ _ this

/-- What can be reached from `start` by one or more edges, without `start` itself. -/
def walk (table : NameMap α) (edges : α → List String) (start : String) (first : List String) :
    List α :=
  visit table edges [start] first

/-- The entity with this id and those that `next` leads to from it, one after the other, up to
the end of the line or the first that comes again. -/
def chain (table : NameMap α) (next : α → Option String) (seen : List String)
    (id : Option String) : List α :=
  match id with
  | none => []
  | some id =>
    if hseen : seen.contains id then []
    else match h : table[id]? with
      | none => []
      | some entity =>
        have := length_unseen_lt h hseen
        entity :: chain table next (id :: seen) (next entity)
termination_by (unseen table seen).length

end HostFleet.Walk
