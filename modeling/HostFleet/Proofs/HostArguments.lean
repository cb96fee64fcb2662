import HostFleet.Proofs.SelectorReading
import HostFleet.Proofs.StoreAnswers
import HostFleet.Proofs.TokenOrder
import HostFleet.Transport.Launch

/-!
# Host names as arguments

The remote shell client is given the name of a host as one of its arguments, and takes an argument
that begins with a dash for an option. A label may begin with a dash, so such a name can come from
an expression: not from a token without a sign, whose first dash is the sign, but from one that
has a plus in front of the name.
-/

namespace HostFleet.Proofs
open Std Selector

/-- Two labels or more with dots between them. -/
def HostName (name : String) : Prop := ∃ t : TargetTree, t.value = .host name

/-- The text begins with a dash, as options do. -/
def Dashed (text : String) : Prop := text.toList.head? = some '-'

/-- The argument of the client that names the host stands in front of the command. -/
def hostArgument? (args : List String) : Option String := args.dropLast.getLast?

/-! ### Hosts outside the inventory -/

section Covers

variable {store : Store} {name : String} {sel : Selector}

lemma mem_all_of_byId {α : Type} {c : Catalog α} {k : String} {x : α} (h : c.byId? k = some x) :
    x ∈ c.all :=
  mem_values_iff.mpr ⟨k, h⟩

lemma mem_all_of_groupAllHosts {g : HostGroup} {h : Host} (hh : h ∈ store.groupAllHosts g) :
    h ∈ store.hosts.all := by
  rw [Store.groupAllHosts, mem_values_iff] at hh
  obtain ⟨k, hk⟩ := hh
  rw [getElem?_foldl_insert] at hk
  have hlast : lastAt Host.id k ((g :: store.groupDescendants g).flatMap store.groupHosts) =
      some h := by simpa using hk
  obtain ⟨g', -, hmem⟩ := List.mem_flatMap.mp (mem_of_lastAt hlast)
  obtain ⟨i, -, hi⟩ := List.mem_filterMap.mp hmem
  exact mem_all_of_byId hi

/-- A target takes in no hosts but those of the inventory. -/
lemma mem_all_of_targetHosts {target : Target} {h : Host} (hh : h ∈ store.targetHosts target) :
    h ∈ store.hosts.all := by
  have hproject : ∀ p, h ∈ store.projectHosts p → h ∈ store.hosts.all := by
    intro p hp
    obtain ⟨g, -, hg⟩ := List.mem_flatMap.mp hp
    exact mem_all_of_groupAllHosts hg
  cases target with
  | host name =>
    obtain ⟨k, hk⟩ := exists_byId_of_find? (Option.mem_toList.mp hh)
    exact mem_all_of_byId hk
  | group name =>
    obtain ⟨g, -, hg⟩ := List.mem_flatMap.mp hh
    exact mem_all_of_groupAllHosts hg
  | project name =>
    obtain ⟨p, -, hp⟩ := List.mem_flatMap.mp hh
    exact hproject p hp
  | entire =>
    obtain ⟨p, -, hp⟩ := List.mem_flatMap.mp hh
    exact hproject p hp

/-- A name that no host of the inventory has is covered by a selector that names it, has no filter
and finds nothing under it. -/
lemma mem_covers_raw_iff (hraw : ∀ h ∈ store.hosts.all, h.fqdn ≠ name) :
    name ∈ store.covers sel ↔
      sel.target = .host name ∧ sel.hasFilters = false ∧ store.hosts.find? name = none := by
  rw [mem_covers_iff]
  constructor
  · rintro (⟨htarget, hnone, hfilters⟩ | ⟨h, hh, -, hname⟩)
    · rw [htarget, Store.targetHosts, Option.toList_eq_nil_iff] at hnone
      exact ⟨htarget, hfilters, hnone⟩
    · exact absurd hname (hraw h (mem_all_of_targetHosts hh))
  · rintro ⟨htarget, hfilters, hnone⟩
    refine .inl ⟨htarget, ?_, hfilters⟩
    rw [htarget, Store.targetHosts, hnone, Option.toList_none]

end Covers

/-! ### Tokens that name such a host -/

section Tokens

variable {name t : String} {sel : Selector} {d : Derivation}

lemma text_of_value {target : TargetTree} (h : target.value = .host name) :
    target.text = name.toList := by
  cases target with
  | host first second more =>
    obtain rfl := Target.host.inj h
    rw [String.toList_ofList, TargetTree.text]
  | group _ => cases h
  | project _ => cases h
  | entire => cases h

/-- A sign and a target, with no filter behind them. -/
def signed (sign : SignTree) (target : TargetTree) : Derivation where
  sign := some sign
  target := target
  filters := []
  unsigned := by
    intro h
    cases h

lemma text_signed (sign : SignTree) (target : TargetTree) :
    (signed sign target).text = sign.char :: target.text := by
  rw [Derivation.text, signed, filtersText, List.flatMap_nil, List.append_nil]
  rfl

/-- A selector has no filter just when none is written. -/
lemma filters_eq_nil (h : d.Means sel) (hfilters : sel.hasFilters = false) : d.filters = [] := by
  obtain ⟨hdatacenter, htags, hfields⟩ := hasFilters_eq_false_iff.mp hfilters
  have hnames : datacenterNames d.written = [] := by
    rw [← List.head?_eq_none_iff, ← h.datacenter, hdatacenter]
  have htagged := h.tags_none.mp htags
  have hpairs := h.fields_none.mp hfields
  rw [Derivation.written] at hnames htagged hpairs
  cases hd : d.filters with
  | nil => rfl
  | cons f fs =>
    rw [hd] at hnames htagged hpairs
    cases f with
    | datacenter n => simp [datacenterNames, FilterTree.value] at hnames
    | tag n => simp [tagNames, FilterTree.value] at htagged
    | field k v => simp [fieldPairs, FilterTree.value] at hpairs

/-- A name that begins with a dash is read as the name of a host behind a sign alone. -/
theorem exists_parse_dashed_iff (hdash : Dashed name) (exclude : Bool) :
    (∃ sel, parse t = .ok sel ∧ sel.target = .host name ∧ sel.hasFilters = false ∧
      sel.exclude = exclude) ↔
    HostName name ∧ t = (if exclude then "-" else "+") ++ name := by
  constructor
  · rintro ⟨sel, hparse, htarget, hfilters, rfl⟩
    obtain ⟨d, htext, hassemble⟩ := parse_eq_ok_iff.mp hparse
    have hmeans := (assemble?_iff.mp hassemble).2
    have hvalue : d.target.value = .host name := hmeans.target.symm.trans htarget
    have hname := text_of_value hvalue
    refine ⟨⟨d.target, hvalue⟩, ?_⟩
    rw [Derivation.text, filters_eq_nil hmeans hfilters, hname, filtersText, List.flatMap_nil,
      List.append_nil] at htext
    apply String.toList_injective
    rw [← htext, String.toList_append]
    cases hsign : d.sign with
    | none =>
      have hunsigned := d.unsigned hsign '-' (by rw [hname]; exact hdash)
      exact absurd rfl hunsigned.2
    | some sign =>
      have hexclude := hmeans.exclude
      rw [hsign] at hexclude
      cases sign with
      | plus =>
        have hin : sel.exclude = false := by simpa using hexclude
        rw [hin]
        rfl
      | minus =>
        have hout : sel.exclude = true := by simpa using hexclude
        rw [hout]
        rfl
  · rintro ⟨⟨target, hvalue⟩, rfl⟩
    let sign : SignTree := if exclude then .minus else .plus
    have htext : (signed sign target).text = ((if exclude then "-" else "+") ++ name).toList := by
      rw [String.toList_append, ← text_of_value hvalue, text_signed]
      cases exclude <;> rfl
    have hassemble : (signed sign target).parts.assemble? =
        some (plain (decide (some sign = some .minus)) target.value) := rfl
    refine ⟨_, parse_eq_ok_iff.mpr ⟨_, htext, hassemble⟩, hvalue, rfl, ?_⟩
    cases exclude <;> rfl

end Tokens

/-! ### What is given to the client -/

section Arguments

variable {store : Store} {name : String}

lemma hostArgument?_args (ssh : Ssh) (target : RemoteTarget) (command : String) :
    hostArgument? (ssh.args target command) = some target.host := by
  rw [hostArgument?, Ssh.args, List.dropLast_append_cons]
  exact List.getLast?_concat

/-- From some place on an element does not come again. -/
lemma exists_last_place {α : Type} {x : α} {xs : List α} (h : x ∈ xs) :
    ∃ before after, xs = before ++ x :: after ∧ x ∉ after := by
  obtain ⟨before, after, heq, hnot⟩ := List.eq_append_cons_of_mem (List.mem_reverse.mpr h)
  refine ⟨after.reverse, before.reverse, ?_, by simpa using hnot⟩
  rw [← List.reverse_reverse xs, heq]
  simp

/-- A token selects a name outside the inventory that begins with a dash just when it is a sign
and the name. -/
lemma selects_dashed_iff (hdash : Dashed name) (hraw : ∀ h ∈ store.hosts.all, h.fqdn ≠ name)
    {u : String} : Selects store u name ↔
      HostName name ∧ store.hosts.find? name = none ∧ (u = "+" ++ name ∨ u = "-" ++ name) := by
  simp only [Selects, mem_covers_raw_iff hraw]
  constructor
  · rintro ⟨sel, hparse, htarget, hfilters, hnone⟩
    obtain ⟨hhost, htext⟩ := (exists_parse_dashed_iff hdash sel.exclude).mp
      ⟨sel, hparse, htarget, hfilters, rfl⟩
    refine ⟨hhost, hnone, ?_⟩
    cases hexclude : sel.exclude with
    | false =>
      rw [hexclude] at htext
      exact .inl htext
    | true =>
      rw [hexclude] at htext
      exact .inr htext
  · rintro ⟨hhost, hnone, rfl | rfl⟩
    · obtain ⟨sel, hparse, htarget, hfilters, -⟩ :=
        (exists_parse_dashed_iff hdash false).mpr ⟨hhost, rfl⟩
      exact ⟨sel, hparse, htarget, hfilters, hnone⟩
    · obtain ⟨sel, hparse, htarget, hfilters, -⟩ :=
        (exists_parse_dashed_iff hdash true).mpr ⟨hhost, rfl⟩
      exact ⟨sel, hparse, htarget, hfilters, hnone⟩

end Arguments

/-- A name outside the inventory is given to the client as it was selected. It begins with a dash
just when it is the name of a host that stands behind a plus in one of the tokens, and no token
behind that one takes it away. -/
theorem dashed_host_argument_iff (store : Store) (expr name : String) {names : NameSet}
    (hnames : store.resolve expr = .ok names) (hraw : ∀ h ∈ store.hosts.all, h.fqdn ≠ name)
    (ssh : Ssh) (user command : String) :
    hostArgument? (ssh.args ⟨name, user⟩ command) = some name ∧
    ((name ∈ names ∧
        ∃ a, hostArgument? (ssh.args ⟨name, user⟩ command) = some a ∧ Dashed a) ↔
      Dashed name ∧ HostName name ∧ store.hosts.find? name = none ∧
        ∃ before after, segments expr = before ++ ("+" ++ name) :: after ∧
          "-" ++ name ∉ after) := by
  have hargument : hostArgument? (ssh.args ⟨name, user⟩ command) = some name :=
    hostArgument?_args ssh ⟨name, user⟩ command
  refine ⟨hargument, ?_⟩
  rw [hargument, mem_resolve_iff hnames]
  simp only [Option.some.injEq, exists_eq_left', mem_covers_raw_iff hraw]
  constructor
  · rintro ⟨⟨before, t, after, hsplit, ⟨sel, hparse, ⟨htarget, hfilters, hnone⟩, hinclude⟩, hlater⟩,
      hdash⟩
    obtain ⟨hhost, rfl⟩ := (exists_parse_dashed_iff hdash false).mp
      ⟨sel, hparse, htarget, hfilters, hinclude⟩
    refine ⟨hdash, hhost, hnone, before, after, hsplit, ?_⟩
    intro hminus
    exact hlater _ hminus ((selects_dashed_iff hdash hraw).mpr ⟨hhost, hnone, .inr rfl⟩)
  · rintro ⟨hdash, hhost, hnone, before, after, hsplit, hminus⟩
    -- The token may come again behind this one. The last time that it comes decides.
    obtain ⟨front, rest, htail, hplus⟩ :=
      exists_last_place (List.mem_cons_self (a := "+" ++ name) (l := after))
    have hsplit' : segments expr = (before ++ front) ++ ("+" ++ name) :: rest := by
      rw [hsplit, htail, List.append_assoc]
    have hrest : ∀ u ∈ rest, u ∈ after := by
      intro u hu
      have hmem : u ∈ ("+" ++ name) :: after := by
        rw [htail]
        exact List.mem_append_right _ (List.mem_cons_of_mem _ hu)
      refine (List.mem_cons.mp hmem).resolve_left ?_
      rintro rfl
      exact hplus hu
    obtain ⟨sel, hparse, htarget, hfilters, hinclude⟩ :=
      (exists_parse_dashed_iff hdash false).mpr ⟨hhost, rfl⟩
    refine ⟨⟨before ++ front, _, rest, hsplit',
      ⟨sel, hparse, ⟨htarget, hfilters, hnone⟩, hinclude⟩, ?_⟩, hdash⟩
    intro u hu hselects
    obtain ⟨-, -, rfl | rfl⟩ := (selects_dashed_iff hdash hraw).mp hselects
    · exact hplus hu
    · exact hminus (hrest _ hu)

/-- The name is taken away before it is selected, so that it stays, and the client is given an
option. -/
theorem dashed_host_argument_of_verbose : ∃ names, Store.resolve {} "--v.x,+-v.x" = .ok names ∧
    "-v.x" ∈ names ∧ ∃ a,
      hostArgument? (Ssh.args ⟨"ssh", []⟩ ⟨"-v.x", "ops"⟩ "uptime") = some a ∧ Dashed a := by
  have hnames : Store.resolve {} "--v.x,+-v.x" = .ok {"-v.x"} := by cbv
  have hempty : ({} : Store).hosts.all = [] := by cbv
  have hraw : ∀ h ∈ ({} : Store).hosts.all, h.fqdn ≠ "-v.x" := by
    rw [hempty]
    exact List.forall_mem_nil _
  have hhost : HostName "-v.x" :=
    ⟨.host ⟨['-', 'v'], by simp, by simp [LabelChar]⟩ ⟨['x'], by simp, by simp [LabelChar]⟩ [],
      rfl⟩
  obtain ⟨-, hiff⟩ := dashed_host_argument_iff {} "--v.x,+-v.x" "-v.x" hnames hraw ⟨"ssh", []⟩
    "ops" "uptime"
  have hsegments : segments "--v.x,+-v.x" = ["--v.x"] ++ ("+" ++ "-v.x") :: [] := by cbv
  exact ⟨_, hnames, hiff.mpr ⟨rfl, hhost, by cbv, _, _, hsegments, List.not_mem_nil⟩⟩

end HostFleet.Proofs
