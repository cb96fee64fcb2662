import HostFleet.Proofs.StoreAnswers
import HostFleet.Proofs.WalkTurns

/-!
# Datacenters above a host

Whether a host stands in a datacenter is asked from the host up, along parents, and listed from the
datacenter down, along children. The way up ends on any tree, however broken, and meets all that
parents lead to. Where both ends of an edge list it, the two directions answer alike.
-/

namespace HostFleet.Proofs
open Relation

/-! ### The loop along parents -/

section Climb

variable {store : Store} {name : String}

/-- One turn of the loop: its answer, or what it has seen and the datacenter that comes next. The
name is looked at before the cycle is noticed. -/
def climb (store : Store) (name : String) :
    List String × Option Datacenter → Bool ⊕ List String × Option Datacenter
  | (_, none) => .inl false
  | (seen, some d) =>
    if d.name = name then .inl true
    else if d.id ∈ seen then .inl false
    else .inr (d.id :: seen, store.datacenterParent? d)

/-- The loop asks for the name along the chain. No datacenter that it has seen has the name, so
that one that comes again need not be asked. -/
theorem climb_any_chain (hids : UnderIds Datacenter.id store.datacenters.byId)
    {seen : List String}
    (hseen : ∀ k ∈ seen, ∀ d, store.datacenters.byId[k]? = some d → d.name ≠ name)
    (k : Option String) :
    ComesTo (climb store name) (seen, k.bind store.datacenters.byId?)
      ((Walk.chain store.datacenters.byId Datacenter.parentId seen k).any (·.name == name)) := by
  fun_induction Walk.chain store.datacenters.byId Datacenter.parentId seen k with
  | case1 seen => exact .last rfl
  | case2 seen k hmem =>
    apply ComesTo.last
    rw [Option.bind_some, Catalog.byId?]
    cases hk : store.datacenters.byId[k]? with
    | none => rfl
    | some d =>
      have hk' : k ∈ seen := by simpa using hmem
      rw [climb, if_neg (hseen k hk' d hk), hids k d hk, if_pos hk', List.any_nil]
  | case3 seen k hmem hk =>
    apply ComesTo.last
    rw [Option.bind_some, Catalog.byId?, hk, climb, List.any_nil]
  | case4 seen k hmem d hk _ ih =>
    have hfresh : d.id ∉ seen := by
      rw [hids k d hk]
      simpa using hmem
    by_cases hname : d.name = name
    · apply ComesTo.last
      rw [Option.bind_some, Catalog.byId?, hk, climb, if_pos hname, List.any_cons, hname,
        beq_self_eq_true, Bool.true_or]
    · have hseen' : ∀ k' ∈ k :: seen, ∀ d', store.datacenters.byId[k']? = some d' →
          d'.name ≠ name := by
        intro k' hk' d' hd'
        rcases List.mem_cons.mp hk' with rfl | hk'
        · rw [hk] at hd'
          cases hd'
          exact hname
        · exact hseen k' hk' d' hd'
      have hturn : climb store name (seen, (some k).bind store.datacenters.byId?) =
          .inr (k :: seen, d.parentId.bind store.datacenters.byId?) := by
        rw [Option.bind_some, Catalog.byId?, hk, climb, if_neg hname, if_neg hfresh, hids k d hk,
          Store.datacenterParent?]
      rw [List.any_cons, beq_false_of_ne hname, Bool.false_or]
      exact .next hturn (ih hseen')

end Climb

/-! ### Up and down -/

variable {s : Snapshot}

/-- Of two datacenters of the store one has the other as its parent just when that one lists it as
its child. Ids that name no datacenter of the store may be listed at one end alone. -/
def MutualParents (store : Store) : Prop :=
  ∀ a ∈ store.datacenters.all, ∀ b ∈ store.datacenters.all,
    b.parentId = some a.id ↔ b.id ∈ a.childIds

lemma datacenters_of_toSnapshot : (exported s).datacenters.byId =
    (Store.ofSnapshot s).datacenters.byId := by
  rw [exported, ofSnapshot_datacenters, Store.toSnapshot, ofSnapshot_datacenters,
    catalogOf_all_byId]

/-- A host stands in what the parents of the store lead to, whatever the snapshot was. -/
lemma hostInDatacenter_iff_inDatacenter {h : Host} {name : String} :
    (Store.ofSnapshot s).hostInDatacenter h name = true ↔
      InDatacenter (Store.ofSnapshot s).toSnapshot h name := by
  rw [← hostInDatacenter_iff distinctIds_toSnapshot, ← exported, Store.hostInDatacenter,
    Store.hostInDatacenter, Store.hostDatacenters, Store.hostDatacenters,
    datacenters_of_toSnapshot]

lemma climb_hostInDatacenter (h : Host) (name : String) :
    ComesTo (climb (Store.ofSnapshot s) name) ([], (Store.ofSnapshot s).hostDatacenter? h)
      ((Store.ofSnapshot s).hostInDatacenter h name) :=
  climb_any_chain (underIds_datacenters s) (by simp) h.datacenterId

lemma hostDatacenter?_eq_some_iff {h : Host} {d : Datacenter} :
    (Store.ofSnapshot s).hostDatacenter? h = some d ↔
      d ∈ (Store.ofSnapshot s).datacenters.all ∧ h.datacenterId = some d.id := by
  rw [Store.hostDatacenter?, ofSnapshot_datacenters, Option.bind_eq_some_iff, mem_all_iff]
  constructor
  · rintro ⟨k, hk, hd⟩
    rw [catalogOf_byId?] at hd
    obtain rfl := key_of_lastAt hd
    exact ⟨hd, hk⟩
  · rintro ⟨hd, hk⟩
    exact ⟨d.id, hk, (catalogOf_byId? d.id).trans hd⟩

/-- A datacenter with its descendants is what links through children lead to. -/
lemma mem_datacenterFamily_iff {d x : Datacenter} (hd : d ∈ (Store.ofSnapshot s).datacenters.all) :
    x ∈ d :: (Store.ofSnapshot s).datacenterDescendants d ↔
      ReflTransGen (Links (Store.ofSnapshot s).datacenters.all Datacenter.id Datacenter.childIds)
        d x := by
  rw [ofSnapshot_datacenters] at hd
  rw [Store.datacenterDescendants, ofSnapshot_datacenters, ← catalogOf_all_byId,
    mem_cons_walk_iff ((catalogOf_byId_iff nodup_all).mpr ⟨hd, rfl⟩),
    reaches_iff_links nodup_all hd]

/-- With distinct names and mutual edges, a host stands in a datacenter just when its own is that
one or one below it. -/
lemma hostInDatacenter_iff_family
    (hnames : ((Store.ofSnapshot s).datacenters.all.map Datacenter.name).Nodup)
    (hmutual : MutualParents (Store.ofSnapshot s)) {d : Datacenter}
    (hd : d ∈ (Store.ofSnapshot s).datacenters.all) {h : Host} :
    (Store.ofSnapshot s).hostInDatacenter h d.name = true ↔
      ∃ x ∈ d :: (Store.ofSnapshot s).datacenterDescendants d,
        (Store.ofSnapshot s).hostDatacenter? h = some x := by
  have hturn : ∀ x, ReflTransGen (Links (Store.ofSnapshot s).datacenters.all Datacenter.id
      Datacenter.childIds) d x ↔ ReflTransGen (Links (Store.ofSnapshot s).datacenters.all
        Datacenter.id fun x => x.parentId.toList) x d := by
    intro x
    apply reflTransGen_links_comm
    intro a ha b hb
    have hup : a.id ∈ b.parentId.toList ↔ b.parentId = some a.id := Option.mem_toList
    rw [hup]
    exact (hmutual a ha b hb).symm
  rw [hostInDatacenter_iff_inDatacenter]
  constructor
  · rintro ⟨x, hx, hk, d', hup, hname⟩
    obtain rfl := eq_of_key_eq hnames (mem_of_links hx hup) hd hname
    exact ⟨x, (mem_datacenterFamily_iff hd).mpr ((hturn x).mpr hup),
      hostDatacenter?_eq_some_iff.mpr ⟨hx, hk⟩⟩
  · rintro ⟨x, hx, hhost⟩
    obtain ⟨hmem, hk⟩ := hostDatacenter?_eq_some_iff.mp hhost
    exact ⟨x, hmem, hk, d, (hturn x).mp ((mem_datacenterFamily_iff hd).mp hx), rfl⟩

/-- In a store made from any snapshot the loop from a host's datacenter up comes to its end, and
finds a name just when parents lead to a datacenter with that name. With distinct names and mutual
edges, that one lists the host's datacenter below itself, if it is not the same. -/
theorem hostInDatacenter_ancestry (s : Snapshot) (h : Host) :
    (∀ name,
      ComesTo (climb (Store.ofSnapshot s) name) ([], (Store.ofSnapshot s).hostDatacenter? h)
        ((Store.ofSnapshot s).hostInDatacenter h name) ∧
      ((Store.ofSnapshot s).hostInDatacenter h name = true ↔
        ∃ x, (Store.ofSnapshot s).hostDatacenter? h = some x ∧
          ∃ d, ReflTransGen (Links (Store.ofSnapshot s).datacenters.all Datacenter.id
            fun x => x.parentId.toList) x d ∧ d.name = name)) ∧
    (((Store.ofSnapshot s).datacenters.all.map Datacenter.name).Nodup →
      MutualParents (Store.ofSnapshot s) → ∀ d ∈ (Store.ofSnapshot s).datacenters.all,
        ((Store.ofSnapshot s).hostInDatacenter h d.name = true ↔
          ∃ x ∈ d :: (Store.ofSnapshot s).datacenterDescendants d,
            (Store.ofSnapshot s).hostDatacenter? h = some x)) := by
  refine ⟨fun name => ⟨climb_hostInDatacenter h name, ?_⟩, ?_⟩
  · rw [hostInDatacenter_iff_inDatacenter]
    simp only [hostDatacenter?_eq_some_iff]
    constructor
    · rintro ⟨x, hx, hk, hup⟩
      exact ⟨x, ⟨hx, hk⟩, hup⟩
    · rintro ⟨x, ⟨hx, hk⟩, hup⟩
      exact ⟨x, hx, hk, hup⟩
  · intro hnames hmutual d hd
    exact hostInDatacenter_iff_family hnames hmutual hd

/-- Two datacenters that are each other's parent, and one below another whose own parent is not in
the store. -/
def brokenSnapshot : Snapshot :=
  { datacenters :=
      [⟨"1", "eu", none, some "9", none, ["2", "8"]⟩,
       ⟨"2", "ams", none, some "1", none, []⟩,
       ⟨"3", "lab", none, some "4", none, ["4"]⟩,
       ⟨"4", "attic", none, some "3", none, ["3"]⟩]
    hosts :=
      [⟨"1", "a.x", none, none, some "2", none, [], []⟩,
       ⟨"2", "b.x", none, none, some "3", none, [], []⟩] }

/-- The one host stands in a datacenter that lists its own below, the other in the far one of the
two that go in a circle. -/
theorem hostInDatacenter_ancestry_of_broken :
    MutualParents (Store.ofSnapshot brokenSnapshot) ∧
    ∃ a ∈ brokenSnapshot.hosts, ∃ b ∈ brokenSnapshot.hosts,
    ∃ eu ∈ (Store.ofSnapshot brokenSnapshot).datacenters.all,
    ∃ attic ∈ (Store.ofSnapshot brokenSnapshot).datacenters.all,
      (Store.ofSnapshot brokenSnapshot).hostInDatacenter a eu.name = true ∧
      (∃ x ∈ eu :: (Store.ofSnapshot brokenSnapshot).datacenterDescendants eu,
        (Store.ofSnapshot brokenSnapshot).hostDatacenter? a = some x) ∧
      (Store.ofSnapshot brokenSnapshot).hostInDatacenter b eu.name = false ∧
      ¬(∃ x ∈ eu :: (Store.ofSnapshot brokenSnapshot).datacenterDescendants eu,
        (Store.ofSnapshot brokenSnapshot).hostDatacenter? b = some x) ∧
      (Store.ofSnapshot brokenSnapshot).hostInDatacenter b attic.name = true ∧
      ∃ x ∈ attic :: (Store.ofSnapshot brokenSnapshot).datacenterDescendants attic,
        (Store.ofSnapshot brokenSnapshot).hostDatacenter? b = some x := by
  have hall : (Store.ofSnapshot brokenSnapshot).datacenters.all =
      brokenSnapshot.datacenters := by cbv
  have hnames : ((Store.ofSnapshot brokenSnapshot).datacenters.all.map Datacenter.name).Nodup := by
    rw [hall]
    decide
  have hmutual : MutualParents (Store.ofSnapshot brokenSnapshot) := by
    rw [MutualParents, hall]
    decide
  have heu : ⟨"1", "eu", none, some "9", none, ["2", "8"]⟩ ∈
      (Store.ofSnapshot brokenSnapshot).datacenters.all := by
    rw [hall]
    exact .head _
  have hattic : ⟨"4", "attic", none, some "3", none, ["3"]⟩ ∈
      (Store.ofSnapshot brokenSnapshot).datacenters.all := by
    rw [hall]
    exact .tail _ (.tail _ (.tail _ (.head _)))
  have hfirst := (hostInDatacenter_ancestry brokenSnapshot
    ⟨"1", "a.x", none, none, some "2", none, [], []⟩).2 hnames hmutual
  have hsecond := (hostInDatacenter_ancestry brokenSnapshot
    ⟨"2", "b.x", none, none, some "3", none, [], []⟩).2 hnames hmutual
  refine ⟨hmutual, _, .head _, _, .tail _ (.head _), _, heu, _, hattic, ?_⟩
  rw [← hfirst _ heu, ← hsecond _ heu, ← hsecond _ hattic]
  have ha : (Store.ofSnapshot brokenSnapshot).hostInDatacenter
      ⟨"1", "a.x", none, none, some "2", none, [], []⟩ "eu" = true := by cbv
  have hb : (Store.ofSnapshot brokenSnapshot).hostInDatacenter
      ⟨"2", "b.x", none, none, some "3", none, [], []⟩ "eu" = false := by cbv
  have hb' : (Store.ofSnapshot brokenSnapshot).hostInDatacenter
      ⟨"2", "b.x", none, none, some "3", none, [], []⟩ "attic" = true := by cbv
  exact ⟨ha, ha, hb, Bool.eq_false_iff.mp hb, hb', hb'⟩

end HostFleet.Proofs
