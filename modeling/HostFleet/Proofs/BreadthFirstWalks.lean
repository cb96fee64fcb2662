import HostFleet.Proofs.ExportedStore

/-!
# Walks by distance

A walk takes the ids of its queue in the order in which they came, and puts what an entity leads to
at the end. So it lists what it reaches by distance from the start, each entity once, on any graph:
edges may form cycles, be repeated and lead to ids without an entity. `Level` is the state of a walk
that has passed all ids nearer than `n` steps and is among those that are `n` steps away.
-/

namespace HostFleet.Proofs
open Walk Relation

/-! ### Distances -/

section Distance

variable {β : Type} {r : β → β → Prop} {a b c : β} {n : ℕ}

/-- Just so many steps of the relation lead from the first to the second. -/
def Leads (r : β → β → Prop) : ℕ → β → β → Prop
  | 0, a, b => a = b
  | n + 1, a, c => ∃ b, Leads r n a b ∧ r b c

/-- The least number of steps that lead from the first to the second. -/
noncomputable def distance (r : β → β → Prop) (a b : β) : ℕ := sInf {n | Leads r n a b}

lemma exists_leads_iff : (∃ n, Leads r n a b) ↔ ReflTransGen r a b := by
  constructor
  · rintro ⟨n, h⟩
    induction n generalizing b with
    | zero =>
      obtain rfl : a = b := h
      exact .refl
    | succ n ih =>
      obtain ⟨c, hac, hcb⟩ := h
      exact (ih hac).tail hcb
  · intro h
    induction h with
    | refl => exact ⟨0, rfl⟩
    | tail _ hstep ih =>
      obtain ⟨n, hn⟩ := ih
      exact ⟨n + 1, _, hn, hstep⟩

lemma distance_le (h : Leads r n a b) : distance r a b ≤ n := Nat.sInf_le h

/-- What is reached at all, but not in fewer steps, is that far away. -/
lemma le_distance (hreach : ReflTransGen r a b) (h : ∀ m < n, ¬Leads r m a b) :
    n ≤ distance r a b := by
  have hleast : Leads r (distance r a b) a b := Nat.sInf_mem (exists_leads_iff.mpr hreach)
  by_contra hlt
  exact h _ (Nat.lt_of_not_le hlt) hleast

end Distance

/-- The list has just what one or more steps lead to from the start, each once and the nearest
first. The start itself is left out. -/
structure BreadthFirst {β : Type} (r : β → β → Prop) (start : β) (found : List β) : Prop where
  nodup : found.Nodup
  mem_iff : ∀ x, x ∈ found ↔ x ≠ start ∧ TransGen r start x
  nearest_first : found.Pairwise fun x y => distance r start x ≤ distance r start y

/-! ### Levels -/

variable {α : Type} {id name : α → String} {edges : α → List String} {xs : List α}

section Level

variable {table : NameMap α} {start a b : String} {n : ℕ} {seen here next rest : List String}

/-- The queue holds ids that `n` steps lead to and behind them ids that one step more leads to.
Whatever is nearer has been seen, and all that an id seen leads to is seen or waits. -/
structure Level (table : NameMap α) (edges : α → List String) (start : String) (n : ℕ)
    (seen here next : List String) : Prop where
  near : ∀ b ∈ here, Leads (Edge table edges) n start b
  far : ∀ b ∈ next, Leads (Edge table edges) (n + 1) start b
  nearer : ∀ m < n, ∀ b, Leads (Edge table edges) m start b → b ∈ seen
  complete : ∀ b, Leads (Edge table edges) n start b → b ∈ seen ∨ b ∈ here
  closed : ∀ a ∈ seen, ∀ b, Edge table edges a b → b ∈ seen ∨ b ∈ here ∨ b ∈ next

namespace Level

/-- A walk begins one step away from its start. -/
lemma begins {x : α} (hx : table[start]? = some x) :
    Level table edges start 1 [start] (edges x) [] where
  near := fun b hb => ⟨start, rfl, x, hx, hb⟩
  far := by simp
  nearer := by
    intro m hm b hb
    obtain rfl : m = 0 := by omega
    obtain rfl : start = b := hb
    exact List.mem_singleton_self _
  complete := by
    rintro b ⟨a, rfl, y, hy, hb⟩
    rw [hx] at hy
    cases hy
    exact .inr hb
  closed := by
    rintro a ha b ⟨y, hy, hb⟩
    obtain rfl := List.mem_singleton.mp ha
    rw [hx] at hy
    cases hy
    exact .inr (.inl hb)

/-- When no id of a level waits any more the next level begins. -/
lemma ascend (h : Level table edges start n seen [] next) :
    Level table edges start (n + 1) seen next [] where
  near := h.far
  far := by simp
  nearer := by
    intro m hm b hb
    by_cases hmn : m < n
    · exact h.nearer m hmn b hb
    · obtain rfl : m = n := by omega
      simpa using h.complete b hb
  complete := by
    rintro b ⟨a, ha, hedge⟩
    have hseen : a ∈ seen := by simpa using h.complete a ha
    simpa using h.closed a hseen b hedge
  closed := by
    intro a ha b hedge
    simpa using h.closed a ha b hedge

/-- The first id of the queue is on the level of the walk. -/
lemma front (h : Level table edges start n seen here next) (hqueue : here ++ next = a :: rest) :
    ∃ n here next, Level table edges start n seen (a :: here) next ∧ here ++ next = rest := by
  cases here with
  | nil =>
    obtain rfl : next = a :: rest := hqueue
    exact ⟨n + 1, rest, [], h.ascend, List.append_nil rest⟩
  | cons c here =>
    obtain ⟨rfl, hrest⟩ := List.cons.inj hqueue
    exact ⟨n, here, next, h, hrest⟩

/-- An id that was seen may be passed over. -/
lemma skip (h : Level table edges start n seen (a :: here) next) (ha : a ∈ seen) :
    Level table edges start n seen here next where
  near := fun b hb => h.near b (List.mem_cons_of_mem _ hb)
  far := h.far
  nearer := h.nearer
  complete := by
    intro b hb
    have hcases := h.complete b hb
    rw [List.mem_cons] at hcases
    rcases hcases with hb | rfl | hb
    · exact .inl hb
    · exact .inl ha
    · exact .inr hb
  closed := by
    intro c hc b hedge
    have hcases := h.closed c hc b hedge
    rw [List.mem_cons] at hcases
    rcases hcases with hb | (rfl | hb) | hb
    · exact .inl hb
    · exact .inl ha
    · exact .inr (.inl hb)
    · exact .inr (.inr hb)

/-- An id is seen, and what it leads to waits behind all others. -/
lemma pop (h : Level table edges start n seen (a :: here) next) {more : List String}
    (hmore : ∀ b, b ∈ more ↔ Edge table edges a b) :
    Level table edges start n (a :: seen) here (next ++ more) := by
  have hmoved : Level table edges start n (a :: seen) (a :: here) (next ++ more) := {
    near := h.near
    far := by
      intro b hb
      rcases List.mem_append.mp hb with hb | hb
      · exact h.far b hb
      · exact ⟨a, h.near a List.mem_cons_self, (hmore b).mp hb⟩
    nearer := fun m hm b hb => List.mem_cons_of_mem _ (h.nearer m hm b hb)
    complete := fun b hb => (h.complete b hb).imp_left (List.mem_cons_of_mem _)
    closed := by
      intro c hc b hedge
      rcases List.mem_cons.mp hc with rfl | hc
      · exact .inr (.inr (List.mem_append_right _ ((hmore b).mpr hedge)))
      · rcases h.closed c hc b hedge with hb | hb | hb
        · exact .inl (List.mem_cons_of_mem _ hb)
        · exact .inr (.inl hb)
        · exact .inr (.inr (List.mem_append_left _ hb)) }
  exact hmoved.skip List.mem_cons_self

/-- Whatever is still to be found is at least as far away as the level. -/
lemma le_distance (h : Level table edges start n seen here next) (hb : b ∉ seen)
    (hlead : ∃ a ∈ here ++ next, ReflTransGen (Edge table edges) a b) :
    n ≤ distance (Edge table edges) start b := by
  obtain ⟨a, ha, hab⟩ := hlead
  have hstart : ReflTransGen (Edge table edges) start a := by
    rcases List.mem_append.mp ha with ha | ha
    · exact exists_leads_iff.mp ⟨n, h.near a ha⟩
    · exact exists_leads_iff.mp ⟨n + 1, h.far a ha⟩
  exact Proofs.le_distance (hstart.trans hab) fun m hm hm' => hb (h.nearer m hm b hm')

end Level

/-- Entities are kept under their own ids. -/
def UnderIds (id : α → String) (table : NameMap α) : Prop :=
  ∀ (k : String) (x : α), table[k]? = some x → id x = k

/-- A walk lists no id twice, and none that was seen before. -/
theorem nodup_visit (hids : UnderIds id table) (seen queue : List String) :
    ((visit table edges seen queue).map id).Nodup := by
  fun_induction visit table edges seen queue with
  | case1 => exact List.nodup_nil
  | case2 seen a rest hseen ih => exact ih
  | case3 seen a rest hseen ha ih => exact ih
  | case4 seen a rest hseen x hx _ ih =>
    rw [List.map_cons, List.nodup_cons]
    refine ⟨?_, ih⟩
    intro hmem
    obtain ⟨y, hy, heq⟩ := List.mem_map.mp hmem
    obtain ⟨-, -, b, -, hb, hfresh⟩ := visit_sound hy
    have hsame : b = a := by rw [← hids b y hb, heq, hids a x hx]
    exact hfresh (hsame ▸ List.mem_cons_self)

/-- From any level on a walk lists entities by distance. -/
theorem pairwise_visit (hids : UnderIds id table) (h : Level table edges start n seen here next) :
    (visit table edges seen (here ++ next)).Pairwise fun x y =>
      distance (Edge table edges) start (id x) ≤ distance (Edge table edges) start (id y) := by
  generalize hqueue : here ++ next = queue
  fun_induction visit table edges seen queue generalizing n here next with
  | case1 => exact .nil
  | case2 seen a rest hseen ih =>
    obtain ⟨n, here, next, hlevel, hrest⟩ := h.front hqueue
    exact ih (hlevel.skip (by simpa using hseen)) hrest
  | case3 seen a rest hseen ha ih =>
    obtain ⟨n, here, next, hlevel, hrest⟩ := h.front hqueue
    have hnone : ∀ b, b ∈ ([] : List String) ↔ Edge table edges a b := by simp [Edge, ha]
    exact ih (hlevel.pop hnone) (by rw [List.append_nil, hrest])
  | case4 seen a rest hseen x hx _ ih =>
    obtain ⟨n, here, next, hlevel, hrest⟩ := h.front hqueue
    have hedges : ∀ b, b ∈ edges x ↔ Edge table edges a b := by simp [Edge, hx]
    have hnext := hlevel.pop hedges
    have hqueue' : here ++ (next ++ edges x) = rest ++ edges x := by
      rw [← hrest, List.append_assoc]
    refine List.pairwise_cons.mpr ⟨?_, ih hnext hqueue'⟩
    intro y hy
    obtain ⟨c, hc, b, hcb, hb, hfresh⟩ := visit_sound hy
    rw [hids a x hx, hids b y hb]
    calc distance (Edge table edges) start a
      _ ≤ n := distance_le (hlevel.near a List.mem_cons_self)
      _ ≤ distance (Edge table edges) start b :=
        hnext.le_distance hfresh ⟨c, hqueue'.symm ▸ hc, hcb⟩

end Level

/-! ### Walks between entities -/

lemma underIds_catalogOf : UnderIds id (catalogOf id name xs).byId := by
  intro k x hx
  rw [catalogOf_byId] at hx
  exact key_of_lastAt hx

lemma underIds_datacenters (s : Snapshot) :
    UnderIds Datacenter.id (Store.ofSnapshot s).datacenters.byId := by
  rw [ofSnapshot_datacenters]
  exact underIds_catalogOf

/-- With distinct ids, as many steps lead from one entity to another as from its id to the
other's. -/
lemma leads_links_iff (hd : (xs.map id).Nodup) {x y : α} (hx : x ∈ xs) (hy : y ∈ xs) {n : ℕ} :
    Leads (Links xs id edges) n x y ↔
      Leads (Edge (catalogOf id name xs).byId edges) n (id x) (id y) := by
  induction n generalizing y with
  | zero =>
    constructor
    · intro h
      exact congrArg id h
    · intro h
      exact eq_of_key_eq hd hx hy h
  | succ n ih =>
    constructor
    · rintro ⟨z, hlead, hz, -, hedge⟩
      exact ⟨id z, (ih hz).mp hlead, z, (catalogOf_byId_iff hd).mpr ⟨hz, rfl⟩, hedge⟩
    · rintro ⟨b, hlead, z, hb, hedge⟩
      obtain ⟨hz, rfl⟩ := (catalogOf_byId_iff hd).mp hb
      exact ⟨z, (ih hz).mpr hlead, hz, hy, hedge⟩

lemma distance_links (hd : (xs.map id).Nodup) {x y : α} (hx : x ∈ xs) (hy : y ∈ xs) :
    distance (Links xs id edges) x y =
      distance (Edge (catalogOf id name xs).byId edges) (id x) (id y) := by
  rw [distance, distance]
  congr 1
  ext n
  exact leads_links_iff hd hx hy

lemma mem_of_transGen_links {x y : α} (h : TransGen (Links xs id edges) x y) : y ∈ xs := by
  obtain ⟨z, -, hlink⟩ := TransGen.tail'_iff.mp h
  exact hlink.2.1

/-- What a walk lists is what links lead to from its start, the start left out. -/
lemma mem_walk_links_iff (hd : (xs.map id).Nodup) {start x : α} (hs : start ∈ xs) :
    x ∈ walk (catalogOf id name xs).byId edges (id start) (edges start) ↔
      x ≠ start ∧ TransGen (Links xs id edges) start x := by
  have hstart : (catalogOf id name xs).byId[id start]? = some start :=
    (catalogOf_byId_iff hd).mpr ⟨hs, rfl⟩
  have hreach : x ∈ start :: walk (catalogOf id name xs).byId edges (id start) (edges start) ↔
      Reaches (catalogOf id name xs).byId edges (id start) x := mem_cons_walk_iff hstart
  rw [reaches_iff_links hd hs, reflTransGen_iff_eq_or_transGen, List.mem_cons] at hreach
  have hleft : start ∉ walk (catalogOf id name xs).byId edges (id start) (edges start) := by
    intro hmem
    obtain ⟨b, hne, -, hb⟩ := (mem_walk_iff hstart).mp hmem
    exact hne ((catalogOf_byId_iff hd).mp hb).2.symm
  constructor
  · intro hx
    have hne : x ≠ start := by
      rintro rfl
      exact hleft hx
    exact ⟨hne, (hreach.mp (.inr hx)).resolve_left hne⟩
  · rintro ⟨hne, hsteps⟩
    exact (hreach.mpr (.inr hsteps)).resolve_left hne

theorem walk_breadthFirst (name : α → String) (edges : α → List String) (hd : (xs.map id).Nodup)
    {start : α} (hs : start ∈ xs) :
    BreadthFirst (Links xs id edges) start
      (walk (catalogOf id name xs).byId edges (id start) (edges start)) := by
  have hstart : (catalogOf id name xs).byId[id start]? = some start :=
    (catalogOf_byId_iff hd).mpr ⟨hs, rfl⟩
  refine ⟨(nodup_visit underIds_catalogOf _ _).of_map, fun x => mem_walk_links_iff hd hs, ?_⟩
  have hlevel : Level (catalogOf id name xs).byId edges (id start) 1 [id start] (edges start) [] :=
    .begins hstart
  have hids := pairwise_visit underIds_catalogOf hlevel
  rw [List.append_nil] at hids
  refine List.Pairwise.imp_of_mem ?_ hids
  intro x y hx hy hle
  have hxs := mem_of_transGen_links ((mem_walk_links_iff hd hs).mp hx).2
  have hys := mem_of_transGen_links ((mem_walk_links_iff hd hs).mp hy).2
  rw [distance_links hd hs hxs, distance_links hd hs hys]
  exact hle

/-- A walk in a catalog is one between the entities that the catalog has in the end. -/
lemma walk_breadthFirst_all {start : α} (hs : start ∈ (catalogOf id name xs).all) :
    BreadthFirst (Links (catalogOf id name xs).all id edges) start
      (walk (catalogOf id name xs).byId edges (id start) (edges start)) := by
  have h := walk_breadthFirst name edges nodup_all hs
  rw [catalogOf_all_byId] at h
  exact h

end HostFleet.Proofs
