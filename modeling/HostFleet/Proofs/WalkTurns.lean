import HostFleet.Proofs.BreadthFirstWalks

/-!
# Walks turn by turn

A walk over groups has ids in its queue and looks an id up when its turn comes, after it was marked
as seen. A walk over datacenters looks ids up before they are queued, so that an id without an
entity is never marked. Both loops end on any graph, with what `Walk.walk` lists.
-/

namespace HostFleet.Proofs
open Walk Relation

/-! ### Loops -/

section Loops

variable {σ τ : Type} {turn : σ → τ ⊕ σ} {t t' : σ} {answer : τ}

/-- A loop makes turns, each of which gives an answer or what the next one starts from. It comes to
this answer. -/
def ComesTo (turn : σ → τ ⊕ σ) (t : σ) (answer : τ) : Prop :=
  ∃ last, ReflTransGen (fun t t' => turn t = .inr t') t last ∧ turn last = .inl answer

lemma ComesTo.last (h : turn t = .inl answer) : ComesTo turn t answer := ⟨t, .refl, h⟩

lemma ComesTo.next (hturn : turn t = .inr t') (h : ComesTo turn t' answer) :
    ComesTo turn t answer := by
  obtain ⟨last, hruns, hlast⟩ := h
  exact ⟨last, .head hturn hruns, hlast⟩

end Loops

/-! ### Loops over a queue -/

section Turns

variable {α : Type} {id : α → String} {table : NameMap α} {edges : α → List String}

/-- What a loop over a queue keeps from one turn to the next. -/
structure Round (β α : Type) where
  seen : List String
  queue : List β
  found : List α

/-- One turn of a loop whose queue has ids. When the queue is empty it answers what it found. -/
def idTurn (table : NameMap α) (edges : α → List String) :
    Round String α → List α ⊕ Round String α
  | ⟨_, [], found⟩ => .inl found
  | ⟨seen, a :: rest, found⟩ =>
    if a ∈ seen then .inr ⟨seen, rest, found⟩
    else match table[a]? with
      | none => .inr ⟨a :: seen, rest, found⟩
      | some x => .inr ⟨a :: seen, rest ++ edges x, found ++ [x]⟩

/-- One turn of a loop whose queue has entities. -/
def entityTurn (id : α → String) (targets : α → List α) : Round α α → List α ⊕ Round α α
  | ⟨_, [], found⟩ => .inl found
  | ⟨seen, x :: rest, found⟩ =>
    if id x ∈ seen then .inr ⟨seen, rest, found⟩
    else .inr ⟨id x :: seen, rest ++ targets x, found ++ [x]⟩

/-- The loop over ids goes through the cases of `visit`. -/
theorem idTurns_end (seen queue : List String) (found : List α) :
    ComesTo (idTurn table edges) ⟨seen, queue, found⟩
      (found ++ visit table edges seen queue) := by
  fun_induction visit table edges seen queue generalizing found with
  | case1 seen =>
    rw [List.append_nil]
    exact .last rfl
  | case2 seen a rest hseen ih =>
    have hturn : idTurn table edges ⟨seen, a :: rest, found⟩ = .inr ⟨seen, rest, found⟩ :=
      if_pos (by simpa using hseen)
    exact .next hturn (ih found)
  | case3 seen a rest hseen ha ih =>
    have hturn : idTurn table edges ⟨seen, a :: rest, found⟩ =
        .inr ⟨a :: seen, rest, found⟩ := by
      rw [idTurn, if_neg (by simpa using hseen), ha]
    exact .next hturn (ih found)
  | case4 seen a rest hseen x hx _ ih =>
    have hturn : idTurn table edges ⟨seen, a :: rest, found⟩ =
        .inr ⟨a :: seen, rest ++ edges x, found ++ [x]⟩ := by
      rw [idTurn, if_neg (by simpa using hseen), hx]
    have hrest := ih (found ++ [x])
    rw [List.append_assoc, List.singleton_append] at hrest
    exact .next hturn hrest

/-- The loop over entities passes over the ids that have none. What it has marked is the same
otherwise: `marked` and `seen` differ by ids without an entity alone. -/
theorem entityTurns_end (hids : UnderIds id table) {seen marked queue : List String}
    (hmarked : ∀ k x, table[k]? = some x → (k ∈ seen ↔ k ∈ marked)) (found : List α) :
    ComesTo (entityTurn id fun x => (edges x).filterMap (table[·]?))
      ⟨marked, queue.filterMap (table[·]?), found⟩ (found ++ visit table edges seen queue) := by
  fun_induction visit table edges seen queue generalizing marked found with
  | case1 seen =>
    rw [List.append_nil]
    exact .last rfl
  | case2 seen a rest hseen ih =>
    cases ha : table[a]? with
    | none =>
      rw [List.filterMap_cons_none ha]
      exact ih hmarked found
    | some x =>
      have hax : a ∈ marked := (hmarked a x ha).mp (by simpa using hseen)
      rw [List.filterMap_cons_some ha]
      refine .next (if_pos ?_) (ih hmarked found)
      rwa [hids a x ha]
  | case3 seen a rest hseen ha ih =>
    rw [List.filterMap_cons_none ha]
    refine ih ?_ found
    intro k x hk
    have hne : k ≠ a := by
      rintro rfl
      rw [ha] at hk
      cases hk
    rw [List.mem_cons, or_iff_right hne]
    exact hmarked k x hk
  | case4 seen a rest hseen x hx _ ih =>
    have hfresh : a ∉ marked := by
      rw [← hmarked a x hx]
      simpa using hseen
    rw [List.filterMap_cons_some hx]
    have hturn : entityTurn id (fun x => (edges x).filterMap (table[·]?))
        ⟨marked, x :: rest.filterMap (table[·]?), found⟩ =
          .inr ⟨a :: marked, (rest ++ edges x).filterMap (table[·]?), found ++ [x]⟩ := by
      rw [entityTurn, hids a x hx, if_neg hfresh, List.filterMap_append]
    have hmarked' : ∀ k y, table[k]? = some y → (k ∈ a :: seen ↔ k ∈ a :: marked) := by
      intro k y hk
      rw [List.mem_cons, List.mem_cons, hmarked k y hk]
    have hrest := ih hmarked' (found ++ [x])
    rw [List.append_assoc, List.singleton_append] at hrest
    exact .next hturn hrest

end Turns

/-! ### Walks in a store -/

variable {s : Snapshot}

/-- The loop over ids from a group. -/
lemma groupTurns_end (edges : HostGroup → List String) (g : HostGroup) :
    ComesTo (idTurn (Store.ofSnapshot s).groups.byId edges) ⟨[g.id], edges g, []⟩
      (walk (Store.ofSnapshot s).groups.byId edges g.id (edges g)) :=
  idTurns_end [g.id] (edges g) []

/-- The loop over entities from a datacenter, whose children are looked up before the first turn. -/
lemma datacenterTurns_end (d : Datacenter) :
    ComesTo (entityTurn Datacenter.id (Store.ofSnapshot s).datacenterChildren)
      ⟨[d.id], (Store.ofSnapshot s).datacenterChildren d, []⟩
      ((Store.ofSnapshot s).datacenterDescendants d) :=
  entityTurns_end (underIds_datacenters s) (fun _ _ _ => Iff.rfl) []

lemma groups_breadthFirst (edges : HostGroup → List String) {g : HostGroup}
    (hg : g ∈ (Store.ofSnapshot s).groups.all) :
    BreadthFirst (Links (Store.ofSnapshot s).groups.all HostGroup.id edges) g
      (walk (Store.ofSnapshot s).groups.byId edges g.id (edges g)) := by
  rw [ofSnapshot_groups] at hg ⊢
  exact walk_breadthFirst_all hg

lemma datacenters_breadthFirst {d : Datacenter}
    (hd : d ∈ (Store.ofSnapshot s).datacenters.all) :
    BreadthFirst (Links (Store.ofSnapshot s).datacenters.all Datacenter.id Datacenter.childIds) d
      ((Store.ofSnapshot s).datacenterDescendants d) := by
  rw [Store.datacenterDescendants]
  rw [ofSnapshot_datacenters] at hd ⊢
  exact walk_breadthFirst_all hd

/-- In a store made from any snapshot the walks below and above a group and below a datacenter
come to their ends. Each has found what edges lead to between entities of the store, the nearest
first and none twice. -/
theorem graph_walks_breadthFirst (s : Snapshot) :
    (∀ g ∈ (Store.ofSnapshot s).groups.all,
      ComesTo (idTurn (Store.ofSnapshot s).groups.byId HostGroup.childIds)
        ⟨[g.id], g.childIds, []⟩ ((Store.ofSnapshot s).groupDescendants g) ∧
      BreadthFirst (Links (Store.ofSnapshot s).groups.all HostGroup.id HostGroup.childIds) g
        ((Store.ofSnapshot s).groupDescendants g)) ∧
    (∀ g ∈ (Store.ofSnapshot s).groups.all,
      ComesTo (idTurn (Store.ofSnapshot s).groups.byId HostGroup.parentIds)
        ⟨[g.id], g.parentIds, []⟩ ((Store.ofSnapshot s).groupAncestors g) ∧
      BreadthFirst (Links (Store.ofSnapshot s).groups.all HostGroup.id HostGroup.parentIds) g
        ((Store.ofSnapshot s).groupAncestors g)) ∧
    ∀ d ∈ (Store.ofSnapshot s).datacenters.all,
      ComesTo (entityTurn Datacenter.id (Store.ofSnapshot s).datacenterChildren)
        ⟨[d.id], (Store.ofSnapshot s).datacenterChildren d, []⟩
        ((Store.ofSnapshot s).datacenterDescendants d) ∧
      BreadthFirst (Links (Store.ofSnapshot s).datacenters.all Datacenter.id Datacenter.childIds) d
        ((Store.ofSnapshot s).datacenterDescendants d) := by
  refine ⟨?_, ?_, ?_⟩
  · intro g hg
    exact ⟨groupTurns_end HostGroup.childIds g, groups_breadthFirst HostGroup.childIds hg⟩
  · intro g hg
    exact ⟨groupTurns_end HostGroup.parentIds g, groups_breadthFirst HostGroup.parentIds hg⟩
  · intro d hd
    exact ⟨datacenterTurns_end d, datacenters_breadthFirst hd⟩

/-- Groups in cycles, of which one lists itself, another id twice and one that has no group. Two
groups have one id, so that the later one stays. -/
def tangledSnapshot : Snapshot :=
  { groups :=
      [⟨"1", "old", none, none, ["4"], ["3"], []⟩,
       ⟨"1", "web", none, none, ["4"], ["1", "2", "2", "9", "3"], []⟩,
       ⟨"2", "db", none, none, ["1", "1"], ["4"], []⟩,
       ⟨"3", "mail", none, none, ["1"], ["1", "4"], []⟩,
       ⟨"4", "lab", none, none, ["2", "3", "4", "9"], ["1"], []⟩]
    datacenters :=
      [⟨"1", "eu", none, none, none, ["9", "2", "1"]⟩,
       ⟨"2", "nl", none, none, none, ["1", "3", "3"]⟩,
       ⟨"3", "ams", none, none, none, ["3", "2"]⟩] }

/-- Below "web" the lab comes last and above it first. -/
theorem graph_walks_of_tangled : ∃ g ∈ (Store.ofSnapshot tangledSnapshot).groups.all,
    ∃ d ∈ (Store.ofSnapshot tangledSnapshot).datacenters.all,
    ((Store.ofSnapshot tangledSnapshot).groupDescendants g).map HostGroup.name =
      ["db", "mail", "lab"] ∧
    BreadthFirst (Links (Store.ofSnapshot tangledSnapshot).groups.all HostGroup.id
      HostGroup.childIds) g ((Store.ofSnapshot tangledSnapshot).groupDescendants g) ∧
    ((Store.ofSnapshot tangledSnapshot).groupAncestors g).map HostGroup.name =
      ["lab", "db", "mail"] ∧
    BreadthFirst (Links (Store.ofSnapshot tangledSnapshot).groups.all HostGroup.id
      HostGroup.parentIds) g ((Store.ofSnapshot tangledSnapshot).groupAncestors g) ∧
    ((Store.ofSnapshot tangledSnapshot).datacenterDescendants d).map Datacenter.name =
      ["nl", "ams"] ∧
    ComesTo (entityTurn Datacenter.id (Store.ofSnapshot tangledSnapshot).datacenterChildren)
      ⟨[d.id], (Store.ofSnapshot tangledSnapshot).datacenterChildren d, []⟩
      ((Store.ofSnapshot tangledSnapshot).datacenterDescendants d) ∧
    BreadthFirst (Links (Store.ofSnapshot tangledSnapshot).datacenters.all Datacenter.id
      Datacenter.childIds) d ((Store.ofSnapshot tangledSnapshot).datacenterDescendants d) := by
  obtain ⟨hbelow, habove, hdatacenters⟩ := graph_walks_breadthFirst tangledSnapshot
  have hgroups : (Store.ofSnapshot tangledSnapshot).groups.all =
      tangledSnapshot.groups.tail := by cbv
  have hplaces : (Store.ofSnapshot tangledSnapshot).datacenters.all =
      tangledSnapshot.datacenters := by cbv
  have hg : ⟨"1", "web", none, none, ["4"], ["1", "2", "2", "9", "3"], []⟩ ∈
      (Store.ofSnapshot tangledSnapshot).groups.all := by
    rw [hgroups]
    exact .head _
  have hd : ⟨"1", "eu", none, none, none, ["9", "2", "1"]⟩ ∈
      (Store.ofSnapshot tangledSnapshot).datacenters.all := by
    rw [hplaces]
    exact .head _
  refine ⟨_, hg, _, hd, ?_, (hbelow _ hg).2, ?_, (habove _ hg).2, ?_, hdatacenters _ hd⟩
  · cbv
  · cbv
  · cbv

end HostFleet.Proofs
