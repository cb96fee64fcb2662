import HostFleet.Proofs.SelectionMeaning

/-!
# The order of tokens

An expression is read token by token, and its first bad token makes it bad. What a good one
selects is told for each name by itself: of the tokens that select the name, the last one decides.
-/

namespace HostFleet.Proofs
open Std Selector

/-- The texts between the commas of an expression. -/
def segments (expr : String) : List String := (expr.toList.splitOn ',').map String.ofList

/-- The token is read, and it covers the name whatever its sign. -/
def Selects (store : Store) (token name : String) : Prop :=
  ∃ sel, parse token = .ok sel ∧ name ∈ store.covers sel

/-! ### Reading all tokens -/

section Lists

variable {α β ε : Type} {f : α → Except ε β} {x : α} {xs : List α} {ys : List β} {e : ε}

/-- A place in a list is its front or a place in the rest. -/
lemma exists_place_cons {P : List α → α → List α → Prop} :
    (∃ before y after, x :: xs = before ++ y :: after ∧ P before y after) ↔
      P [] x xs ∨ ∃ before y after, xs = before ++ y :: after ∧ P (x :: before) y after := by
  constructor
  · rintro ⟨before, y, after, heq, h⟩
    cases before with
    | nil =>
      obtain ⟨rfl, rfl⟩ := List.cons.inj heq
      exact .inl h
    | cons u before =>
      obtain ⟨rfl, rfl⟩ := List.cons.inj heq
      exact .inr ⟨before, y, after, rfl, h⟩
  · rintro (h | ⟨before, y, after, rfl, h⟩)
    · exact ⟨[], x, xs, rfl, h⟩
    · exact ⟨x :: before, y, after, rfl, h⟩

/-- A list is mapped when each of its elements is. -/
lemma mapM_eq_ok_iff : xs.mapM f = .ok ys ↔ List.Forall₂ (fun x y => f x = .ok y) xs ys := by
  induction xs generalizing ys with
  | nil => cases ys <;> simp [pure, Except.pure]
  | cons x xs ih =>
    rw [List.mapM_cons, List.forall₂_cons_left_iff]
    simp only [← ih]
    cases hx : f x with
    | error e => simp [bind, Except.bind]
    | ok y => cases xs.mapM f <;> simp [bind, Except.bind, pure, Except.pure, eq_comm]

lemma exists_mapM_eq_ok_iff : (∃ ys, xs.mapM f = .ok ys) ↔ ∀ x ∈ xs, ∃ y, f x = .ok y := by
  simp only [mapM_eq_ok_iff]
  induction xs with
  | nil => simp
  | cons x xs ih =>
    rw [List.forall_mem_cons, ← ih]
    simp only [List.forall₂_cons_left_iff]
    constructor
    · rintro ⟨ys, y, zs, hx, hxs, -⟩
      exact ⟨⟨y, hx⟩, zs, hxs⟩
    · rintro ⟨⟨y, hx⟩, zs, hxs⟩
      exact ⟨y :: zs, y, zs, hx, hxs, rfl⟩

/-- A list is not mapped just when an element is not, and the first such element gives the
reason. -/
lemma mapM_eq_error_iff : xs.mapM f = .error e ↔ ∃ before x after, xs = before ++ x :: after ∧
    (∀ u ∈ before, ∃ y, f u = .ok y) ∧ f x = .error e := by
  induction xs with
  | nil => simp [pure, Except.pure]
  | cons x xs ih =>
    rw [List.mapM_cons, exists_place_cons]
    cases hx : f x with
    | error e => simp [bind, Except.bind, hx]
    | ok y =>
      simp only [List.forall_mem_cons, hx, Except.ok.injEq, exists_eq', true_and, ← ih]
      cases xs.mapM f <;> simp [bind, Except.bind, pure, Except.pure]

end Lists

lemma tokens_eq_splitOn (cs : List Char) : tokens cs = cs.splitOn ',' := by
  induction cs with
  | nil => rfl
  | cons c cs ih =>
    rw [tokens, List.splitOn_cons_eq_if_modifyHead, ih]
    by_cases hc : c = ','
    · simp [hc]
    · cases hrest : cs.splitOn ',' with
      | nil => exact absurd hrest (List.splitOn_ne_nil ',' cs)
      | cons first rest => simp [hc]

/-- An expression is read as the texts between its commas are. -/
lemma parseExpression_eq (expr : String) : parseExpression expr = (segments expr).mapM parse := by
  rw [parseExpression, tokens_eq_splitOn, segments, List.mapM_map]
  congr 1
  funext cs
  simp [parse]

/-! ### Selecting -/

variable {store : Store}

/-- A selector that covers a name decides about it, and one that does not leaves it as it was. -/
lemma mem_applySelector_iff {names : NameSet} {sel : Selector} {h : String} :
    h ∈ store.applySelector names sel ↔
      (h ∈ store.covers sel ∧ sel.exclude = false) ∨ (h ∉ store.covers sel ∧ h ∈ names) := by
  rw [Store.applySelector]
  cases sel.exclude with
  | true => simp [ExtTreeSet.mem_diff_iff, and_comm]
  | false =>
    simp only [Bool.false_eq_true, if_false, ExtTreeSet.mem_union_iff, and_true]
    tauto

lemma selects_iff {t : String} {sel : Selector} (ht : parse t = .ok sel) {h : String} :
    Selects store t h ↔ h ∈ store.covers sel := by
  simp [Selects, ht]

/-- After some tokens a name is in the set if the last one that selects it is an inclusion, or if
none selects it and it was there before. -/
lemma mem_foldl_applySelector_iff {ts : List String} {sels : List Selector}
    (hread : List.Forall₂ (fun t sel => parse t = .ok sel) ts sels) {names : NameSet} {h : String} :
    h ∈ sels.foldl store.applySelector names ↔
      (∃ before t after, ts = before ++ t :: after ∧
        (∃ sel, parse t = .ok sel ∧ h ∈ store.covers sel ∧ sel.exclude = false) ∧
        ∀ u ∈ after, ¬Selects store u h) ∨
      ((∀ u ∈ ts, ¬Selects store u h) ∧ h ∈ names) := by
  induction hread generalizing names with
  | nil => simp
  | @cons t sel ts sels ht hread ih =>
    rw [List.foldl_cons, ih, mem_applySelector_iff, exists_place_cons, List.forall_mem_cons,
      selects_iff ht]
    simp only [ht, Except.ok.injEq, exists_eq_left']
    constructor
    · rintro (hlater | ⟨hnone, hcovers | ⟨hnot, hnames⟩⟩)
      · exact .inl (.inr hlater)
      · exact .inl (.inl ⟨hcovers, hnone⟩)
      · exact .inr ⟨⟨hnot, hnone⟩, hnames⟩
    · rintro ((⟨hcovers, hnone⟩ | hlater) | ⟨⟨hnot, hnone⟩, hnames⟩)
      · exact .inr ⟨hnone, .inl hcovers⟩
      · exact .inl hlater
      · exact .inr ⟨hnone, .inr ⟨hnot, hnames⟩⟩

/-- Reading stops an expression just when it stops one of its tokens, and at the first of these. -/
lemma resolve_eq_error_iff {expr : String} {e : Selector.Error} :
    store.resolve expr = .error e ↔ ∃ before t after, segments expr = before ++ t :: after ∧
      (∀ u ∈ before, ∃ sel, parse u = .ok sel) ∧ parse t = .error e := by
  rw [Store.resolve, parseExpression_eq, ← mapM_eq_error_iff]
  cases (segments expr).mapM parse <;> simp [Except.map]

/-- A name is selected if an inclusion selects it and no token behind that does. -/
lemma mem_resolve_iff {expr name : String} {names : NameSet}
    (hnames : store.resolve expr = .ok names) :
    name ∈ names ↔ ∃ before t after, segments expr = before ++ t :: after ∧
      (∃ sel, parse t = .ok sel ∧ name ∈ store.covers sel ∧ sel.exclude = false) ∧
      ∀ u ∈ after, ¬Selects store u name := by
  rw [Store.resolve, parseExpression_eq] at hnames
  cases hread : (segments expr).mapM parse with
  | error e =>
    rw [hread] at hnames
    cases hnames
  | ok sels =>
    rw [hread] at hnames
    obtain rfl := Except.ok.inj hnames
    rw [Store.select, mem_foldl_applySelector_iff (mapM_eq_ok_iff.mp hread)]
    simp

/-- An expression is refused for its first bad token. If there is none, it selects those names
for which the last token that selects them is an inclusion. -/
theorem resolve_by_last_token (store : Store) (expr : String) :
    ((∃ e, store.resolve expr = .error e) ↔ ∃ t ∈ segments expr, ∃ e, parse t = .error e) ∧
    (∀ e, store.resolve expr = .error e ↔ ∃ before t after, segments expr = before ++ t :: after ∧
      (∀ u ∈ before, ∃ sel, parse u = .ok sel) ∧ parse t = .error e) ∧
    ((∀ t ∈ segments expr, ∃ sel, parse t = .ok sel) → ∃ names, store.resolve expr = .ok names ∧
      ∀ h, h ∈ names ↔ ∃ before t after, segments expr = before ++ t :: after ∧
        (∃ sel, parse t = .ok sel ∧ h ∈ store.covers sel ∧ sel.exclude = false) ∧
        ∀ u ∈ after, ¬Selects store u h) := by
  refine ⟨?_, fun e => resolve_eq_error_iff, fun hgood => ?_⟩
  · rw [← not_iff_not]
    push Not
    have hok : (∀ e, store.resolve expr ≠ .error e) ↔
        ∃ sels, (segments expr).mapM parse = .ok sels := by
      rw [Store.resolve, parseExpression_eq]
      cases (segments expr).mapM parse <;> simp [Except.map]
    have htoken : ∀ t, (∀ e, parse t ≠ .error e) ↔ ∃ sel, parse t = .ok sel := by
      intro t
      cases parse t <;> simp
    simp only [hok, exists_mapM_eq_ok_iff, htoken]
  · obtain ⟨sels, hread⟩ := exists_mapM_eq_ok_iff.mpr hgood
    have hresolve : store.resolve expr = .ok (store.select sels) := by
      rw [Store.resolve, parseExpression_eq, hread]
      rfl
    refine ⟨_, hresolve, fun h => ?_⟩
    rw [Store.select, mem_foldl_applySelector_iff (mapM_eq_ok_iff.mp hread)]
    simp

/-- An exclusion takes away only what stands before it. -/
example : (Store.resolve {} "a.x,b.x,-a.x,-c.x,c.x").toOption.map (·.toList) =
    some ["b.x", "c.x"] := by cbv

end HostFleet.Proofs
