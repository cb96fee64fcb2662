import HostFleet.Proofs.EntityCodec

/-!
# Variations of inventory documents

A reader of inventory data takes no notice of the order of members, of members that it does not
know, and of the name that a field with two names comes under. A list that is `null`, empty or left
out is the same to it, and so is a text that is `null` or left out. `Varies` has one constructor for
each of these changes, at any depth of the document. A field that is given twice is always refused.
-/

namespace HostFleet.Proofs
open Document Relation

/-! ### Kinds of records -/

/-- What a document is read as. -/
inductive RecordKind where
  | snapshot
  | datacenter
  | project
  | group
  | host
  | customField
  deriving DecidableEq

/-- A field of a record, with the names that it goes by. -/
inductive RecordField where
  /-- A text that has to be there. -/
  | needed (name : String)
  /-- A text that can be `null` or left out. -/
  | optional (name : String)
  /-- A list of texts, or `null`, or left out. -/
  | texts (names : List String)
  /-- A list of records of a kind, or `null`, or left out. -/
  | records (names : List String) (kind : RecordKind)
  deriving DecidableEq

namespace RecordField

def names : RecordField → List String
  | .needed name => [name]
  | .optional name => [name]
  | .texts names => names
  | .records names _ => names

def isList : RecordField → Bool
  | .texts _ => true
  | .records _ _ => true
  | _ => false

def isNeeded : RecordField → Bool
  | .needed _ => true
  | _ => false

end RecordField

namespace RecordKind

def fields : RecordKind → List RecordField
  | .snapshot =>
    [.records ["datacenters"] .datacenter, .records ["projects"] .project,
      .records ["groups"] .group, .records ["hosts"] .host]
  | .datacenter =>
    [.needed "_id", .needed "name", .optional "human_readable", .optional "parent_id",
      .optional "root_id", .texts ["child_ids"]]
  | .project =>
    [.needed "_id", .needed "name", .optional "description", .optional "email",
      .optional "root_email", .optional "owner_id"]
  | .group =>
    [.needed "_id", .needed "name", .optional "description", .optional "project_id",
      .texts ["parent_ids"], .texts ["child_ids"], .texts ["tags"]]
  | .host =>
    [.needed "_id", .needed "fqdn", .optional "short_name", .optional "group_id",
      .optional "datacenter_id", .optional "description", .texts ["tags", "all_tags"],
      .records ["custom_fields", "all_custom_fields"] .customField]
  | .customField => [.needed "key", .needed "value"]

abbrev Value : RecordKind → Type
  | .snapshot => Snapshot
  | .datacenter => Datacenter
  | .project => Project
  | .group => HostGroup
  | .host => Host
  | .customField => CustomField

def read? : (k : RecordKind) → Document → Option k.Value
  | .snapshot => Snapshot.ofDocument?
  | .datacenter => Datacenter.ofDocument?
  | .project => Project.ofDocument?
  | .group => HostGroup.ofDocument?
  | .host => Host.ofDocument?
  | .customField => CustomField.ofDocument?

/-- No two fields of a record go by one name. -/
lemma field_unique {k : RecordKind} : ∀ f ∈ k.fields, ∀ g ∈ k.fields, ∀ name ∈ f.names,
    name ∈ g.names → f = g := by
  cases k <;> decide

end RecordKind

/-! ### Changes -/

/-- The members that have one of the names. -/
def given (names : List String) (members : List (String × Document)) :
    List (String × Document) := members.filter fun m => names.contains m.1

/-- A change that the reader of a kind of record does not see. -/
inductive Varies : RecordKind → Document → Document → Prop where
  | permuted {k : RecordKind} {members members' : List (String × Document)}
    (h : members.Perm members') : Varies k (.record members) (.record members')
  | added {k : RecordKind} {name : String} (h : ∀ f ∈ k.fields, name ∉ f.names) (d : Document)
    (members : List (String × Document)) :
    Varies k (.record members) (.record ((name, d) :: members))
  | emptied {k : RecordKind} {f : RecordField} (hf : f ∈ k.fields) (hlist : f.isList = true)
    {name : String} (hname : name ∈ f.names) (members : List (String × Document)) :
    Varies k (.record ((name, .null) :: members)) (.record ((name, .list []) :: members))
  | leftOut {k : RecordKind} {f : RecordField} (hf : f ∈ k.fields) (hneeded : f.isNeeded = false)
    {name : String} (hname : name ∈ f.names) (members : List (String × Document)) :
    Varies k (.record ((name, .null) :: members)) (.record members)
  | renamed {k : RecordKind} {f : RecordField} (hf : f ∈ k.fields) {name name' : String}
    (hname : name ∈ f.names) (hname' : name' ∈ f.names) (d : Document)
    (members : List (String × Document)) :
    Varies k (.record ((name, d) :: members)) (.record ((name', d) :: members))
  | item {k k' : RecordKind} {names : List String} (hf : .records names k' ∈ k.fields)
    {name : String} (hname : name ∈ names) {d d' : Document} (h : Varies k' d d')
    (before after : List Document) (members : List (String × Document)) :
    Varies k (.record ((name, .list (before ++ d :: after)) :: members))
      (.record ((name, .list (before ++ d' :: after)) :: members))

/-- No field is given twice in a record, under one name or under two, nor in the records that it
lists. -/
inductive GivenOnce : RecordKind → Document → Prop where
  | record {k : RecordKind} {members : List (String × Document)}
    (honce : ∀ f ∈ k.fields, (given f.names members).length ≤ 1)
    (hitems : ∀ names k', .records names k' ∈ k.fields → ∀ name ∈ names, ∀ items,
      (name, .list items) ∈ members → ∀ d ∈ items, GivenOnce k' d) :
    GivenOnce k (.record members)
  | other {k : RecordKind} {d : Document} (h : ∀ members, d ≠ .record members) : GivenOnce k d

/-! ### Fields of a record -/

section Given

variable {members members' : List (String × Document)} {names : List String} {name : String}
  {d d' : Document} {i : Nat}

lemma given_cons_of_mem (h : name ∈ names) :
    given names ((name, d) :: members) = (name, d) :: given names members := by
  rw [given, List.filter_cons_of_pos (by simpa using h), given]

lemma given_cons_of_not_mem (h : name ∉ names) :
    given names ((name, d) :: members) = given names members := by
  rw [given, List.filter_cons_of_neg (by simpa using h), given]

lemma length_given_cons : (given names ((name, d) :: members)).length =
    (if name ∈ names then 1 else 0) + (given names members).length := by
  by_cases hname : name ∈ names
  · rw [given_cons_of_mem hname, if_pos hname, List.length_cons, Nat.add_comm]
  · rw [given_cons_of_not_mem hname, if_neg hname, Nat.zero_add]

lemma get_of_given_nil (h : given names members = []) :
    (Fields.named members).get i names = some none := by
  rw [given] at h
  simp only [Fields.get, h]

lemma get_of_given_cons (hname : name ∈ names) (h : given names members = []) :
    (Fields.named ((name, d) :: members)).get i names = some (some d) := by
  have hgiven : given names ((name, d) :: members) = [(name, d)] := by
    rw [given_cons_of_mem hname, h]
  exact get_named hgiven

lemma get_congr (h : given names members' = given names members) :
    (Fields.named members').get i names = (Fields.named members).get i names := by
  rw [given, given] at h
  simp only [Fields.get, h]

/-- A field that is given twice is refused. -/
lemma get_of_given_twice (h : 2 ≤ (given names members).length) :
    (Fields.named members).get i names = none := by
  cases hms : given names members with
  | nil => simp [hms] at h
  | cons m ms =>
    cases ms with
    | nil => simp [hms] at h
    | cons m' ms =>
      rw [given] at hms
      simp only [Fields.get, hms]

/-- What is found in a field does not depend on the order of members. -/
lemma get_perm (h : members.Perm members') :
    (Fields.named members').get i names = (Fields.named members).get i names := by
  have hgiven : (given names members).Perm (given names members') := h.filter _
  cases hms : given names members with
  | nil =>
    rw [hms] at hgiven
    exact get_congr (hgiven.nil_eq.symm.trans hms.symm)
  | cons m ms =>
    cases ms with
    | nil =>
      rw [hms] at hgiven
      exact get_congr ((List.singleton_perm.mp hgiven).symm.trans hms.symm)
    | cons m' ms =>
      have htwice : 2 ≤ (given names members).length := by simp [hms]
      rw [get_of_given_twice htwice, get_of_given_twice (hgiven.length_eq ▸ htwice)]

section Optional

variable {α : Type} {fallback : α} {read : Document → Option α}

lemma optional_of_given_cons (hname : name ∈ names) (h : given names members = []) :
    (Fields.named ((name, d) :: members)).optional i names fallback read = read d := by
  rw [Fields.optional, get_of_given_cons hname h]

lemma optional_of_given_nil (h : given names members = []) :
    (Fields.named members).optional i names fallback read = some fallback := by
  rw [Fields.optional, get_of_given_nil h]

lemma optionalText_leftOut (h : given [name] members = []) :
    (Fields.named members).optionalText i name =
      (Fields.named ((name, .null) :: members)).optionalText i name := by
  rw [Fields.optionalText, Fields.optionalText, optional_of_given_nil h,
    optional_of_given_cons (List.mem_singleton_self name) h, nullable?]

lemma optionalList_leftOut (hname : name ∈ names) (h : given names members = []) :
    (Fields.named members).optionalList i names read =
      (Fields.named ((name, .null) :: members)).optionalList i names read := by
  rw [Fields.optionalList, Fields.optionalList, optional_of_given_nil h,
    optional_of_given_cons hname h, listOrNull?]

lemma optionalList_emptied (hname : name ∈ names) (h : given names members = []) :
    (Fields.named ((name, .list []) :: members)).optionalList i names read =
      (Fields.named ((name, .null) :: members)).optionalList i names read := by
  rw [Fields.optionalList, Fields.optionalList, optional_of_given_cons hname h,
    optional_of_given_cons hname h]
  rfl

/-- The lists in a field are read alike when the items that differ are. -/
lemma optionalList_item (hname : name ∈ names) (h : given names members = [])
    (hitem : read d' = read d) (before after : List Document) :
    (Fields.named ((name, .list (before ++ d' :: after)) :: members)).optionalList i names read =
      (Fields.named ((name, .list (before ++ d :: after)) :: members)).optionalList i names
        read := by
  rw [Fields.optionalList, Fields.optionalList, optional_of_given_cons hname h,
    optional_of_given_cons hname h]
  simp only [listOrNull?, listOf?, List.mapM_append, List.mapM_cons, hitem]

end Optional

end Given

/-! ### Readings -/

/-- A field is read from both records alike. -/
def RecordField.Agrees (members members' : List (String × Document)) : RecordField → Prop
  | .needed name => ∀ i,
    (Fields.named members').required i name text? = (Fields.named members).required i name text?
  | .optional name => ∀ i,
    (Fields.named members').optionalText i name = (Fields.named members).optionalText i name
  | .texts names => ∀ i, (Fields.named members').optionalList i names text? =
    (Fields.named members).optionalList i names text?
  | .records names k => ∀ i, (Fields.named members').optionalList i names k.read? =
    (Fields.named members).optionalList i names k.read?

section Readings

variable {k k' : RecordKind} {f g : RecordField} {members members' : List (String × Document)}
  {names : List String} {name name' : String} {d d' : Document} {i : Nat}

/-- A record is read through its fields alone. -/
lemma read?_congr (h : ∀ f ∈ k.fields, f.Agrees members members') :
    k.read? (.record members') = k.read? (.record members) := by
  cases k
  all_goals
    simp only [RecordKind.fields, List.forall_mem_cons, RecordField.Agrees, RecordKind.read?] at h
  · obtain ⟨h₀, h₁, h₂, h₃, -⟩ := h
    simp only [RecordKind.read?, Snapshot.ofDocument?, fields?_record, Option.bind_eq_bind,
      Option.bind_some, h₀, h₁, h₂, h₃]
  · obtain ⟨h₀, h₁, h₂, h₃, h₄, h₅, -⟩ := h
    simp only [RecordKind.read?, Datacenter.ofDocument?, fields?_record, Option.bind_eq_bind,
      Option.bind_some, h₀, h₁, h₂, h₃, h₄, h₅]
  · obtain ⟨h₀, h₁, h₂, h₃, h₄, h₅, -⟩ := h
    simp only [RecordKind.read?, Project.ofDocument?, fields?_record, Option.bind_eq_bind,
      Option.bind_some, h₀, h₁, h₂, h₃, h₄, h₅]
  · obtain ⟨h₀, h₁, h₂, h₃, h₄, h₅, h₆, -⟩ := h
    simp only [RecordKind.read?, HostGroup.ofDocument?, fields?_record, Option.bind_eq_bind,
      Option.bind_some, h₀, h₁, h₂, h₃, h₄, h₅, h₆]
  · obtain ⟨h₀, h₁, h₂, h₃, h₄, h₅, h₆, h₇, -⟩ := h
    simp only [RecordKind.read?, Host.ofDocument?, fields?_record, Option.bind_eq_bind,
      Option.bind_some, h₀, h₁, h₂, h₃, h₄, h₅, h₆, h₇]
  · obtain ⟨h₀, h₁, -⟩ := h
    simp only [RecordKind.read?, CustomField.ofDocument?, fields?_record, Option.bind_eq_bind,
      Option.bind_some, h₀, h₁]

lemma agrees_of_get (h : ∀ i, (Fields.named members').get i f.names =
    (Fields.named members).get i f.names) : f.Agrees members members' := by
  cases f
  all_goals
    intro i
    have hget := h i
    rw [RecordField.names] at hget
    simp only [Fields.required, Fields.optionalText, Fields.optionalList, Fields.optional, hget]

/-- To compare two records of which the first begins with a member of the field `f`, it is enough
to compare this field, if it is not given again, when all others are as before. -/
lemma agrees_of_head (hf : f ∈ k.fields) (hname : name ∈ f.names)
    (honce : ∀ g ∈ k.fields, (given g.names ((name, d) :: members)).length ≤ 1)
    (hothers : ∀ g ∈ k.fields, name ∉ g.names → ∀ i,
      (Fields.named members').get i g.names = (Fields.named members).get i g.names)
    (hself : given f.names members = [] → f.Agrees ((name, d) :: members) members') :
    ∀ g ∈ k.fields, g.Agrees ((name, d) :: members) members' := by
  intro g hg
  by_cases hmem : name ∈ g.names
  · obtain rfl := RecordKind.field_unique f hf g hg name hname hmem
    have hlength := honce f hf
    rw [given_cons_of_mem hname, List.length_cons] at hlength
    exact hself (List.eq_nil_of_length_eq_zero (by omega))
  · refine agrees_of_get fun i => ?_
    rw [hothers g hg hmem i, get_congr (given_cons_of_not_mem hmem)]

lemma GivenOnce.fields_once (h : GivenOnce k (.record members)) :
    ∀ f ∈ k.fields, (given f.names members).length ≤ 1 := by
  cases h with
  | record honce _ => exact honce
  | other hother => exact absurd rfl (hother members)

lemma GivenOnce.items_once (h : GivenOnce k (.record members))
    (hf : .records names k' ∈ k.fields) (hname : name ∈ names) {items : List Document}
    (hmem : (name, .list items) ∈ members) (hd : d ∈ items) : GivenOnce k' d := by
  cases h with
  | record _ hitems => exact hitems names k' hf name hname items hmem d hd
  | other hother => exact absurd rfl (hother members)

/-- A change is not seen by the reader. -/
lemma Varies.read?_eq (h : Varies k d d') (honce : GivenOnce k d) : k.read? d' = k.read? d := by
  induction h with
  | permuted hperm => exact read?_congr fun f _ => agrees_of_get fun i => get_perm hperm
  | added hunknown d members =>
    refine read?_congr fun f hf => agrees_of_get fun i => ?_
    exact get_congr (given_cons_of_not_mem (hunknown f hf))
  | @emptied k f hf hlist name hname members =>
    refine read?_congr (agrees_of_head hf hname honce.fields_once ?_ fun hnil => ?_)
    · intro g _ hmem i
      exact get_congr (given_cons_of_not_mem hmem)
    · cases f with
      | needed => cases hlist
      | optional => cases hlist
      | texts names => exact fun i => optionalList_emptied hname hnil
      | records names k' => exact fun i => optionalList_emptied hname hnil
  | @leftOut k f hf hneeded name hname members =>
    refine read?_congr
      (agrees_of_head hf hname honce.fields_once (fun _ _ _ _ => rfl) fun hnil => ?_)
    cases f with
    | needed => cases hneeded
    | optional name' =>
      obtain rfl := List.mem_singleton.mp hname
      exact fun i => optionalText_leftOut hnil
    | texts names => exact fun i => optionalList_leftOut hname hnil
    | records names k' => exact fun i => optionalList_leftOut hname hnil
  | @renamed k f hf name name' hname hname' d members =>
    refine read?_congr (agrees_of_head hf hname honce.fields_once ?_ fun hnil => ?_)
    · intro g hg hmem i
      refine get_congr (given_cons_of_not_mem fun hmem' => hmem ?_)
      exact RecordKind.field_unique f hf g hg name' hname' hmem' ▸ hname
    · refine agrees_of_get fun i => ?_
      rw [get_of_given_cons hname hnil, get_of_given_cons hname' hnil]
  | @item k k' names hf name hname d d' h before after members ih =>
    have hitem : k'.read? d' = k'.read? d :=
      ih (honce.items_once hf hname List.mem_cons_self (by simp))
    refine read?_congr (agrees_of_head hf hname honce.fields_once ?_ fun hnil => ?_)
    · intro g _ hmem i
      exact get_congr (given_cons_of_not_mem hmem)
    · exact fun i => optionalList_item hname hnil hitem before after

/-- After a change no field is given twice either. -/
lemma Varies.givenOnce (h : Varies k d d') (honce : GivenOnce k d) : GivenOnce k d' := by
  induction h with
  | permuted hperm =>
    refine .record (fun f hf => ?_) fun names k' hf name hname items hmem d hd => ?_
    · rw [given, ← (hperm.filter _).length_eq]
      exact honce.fields_once f hf
    · exact honce.items_once hf hname (hperm.mem_iff.mpr hmem) hd
  | added hunknown d members =>
    refine .record (fun f hf => ?_) fun names k' hf name hname items hmem d hd => ?_
    · rw [given_cons_of_not_mem (hunknown f hf)]
      exact honce.fields_once f hf
    · rcases List.mem_cons.mp hmem with heq | hmem
      · obtain ⟨rfl, -⟩ := Prod.mk.inj heq
        exact absurd hname (hunknown _ hf)
      · exact honce.items_once hf hname hmem hd
  | @emptied k f hf hlist name hname members =>
    refine .record (fun g hg => ?_) fun names k' hf name hname items hmem d hd => ?_
    · have hlength := honce.fields_once g hg
      rwa [length_given_cons] at hlength ⊢
    · rcases List.mem_cons.mp hmem with heq | hmem
      · obtain ⟨-, hlist⟩ := Prod.mk.inj heq
        rw [Document.list.inj hlist] at hd
        exact absurd hd List.not_mem_nil
      · exact honce.items_once hf hname (List.mem_cons_of_mem _ hmem) hd
  | @leftOut k f hf hneeded name hname members =>
    refine .record (fun g hg => ?_) fun names k' hf name hname items hmem d hd => ?_
    · have hlength := honce.fields_once g hg
      rw [length_given_cons] at hlength
      omega
    · exact honce.items_once hf hname (List.mem_cons_of_mem _ hmem) hd
  | @renamed k f hf name name' hname hname' d members =>
    have hiff : ∀ g ∈ k.fields, name ∈ g.names ↔ name' ∈ g.names := by
      intro g hg
      constructor
      · intro hmem
        exact RecordKind.field_unique f hf g hg name hname hmem ▸ hname'
      · intro hmem
        exact RecordKind.field_unique f hf g hg name' hname' hmem ▸ hname
    refine .record (fun g hg => ?_) fun names k' hg other hother items hmem d hd => ?_
    · have hlength := honce.fields_once g hg
      rw [length_given_cons] at hlength ⊢
      simpa only [hiff g hg] using hlength
    · rcases List.mem_cons.mp hmem with heq | hmem
      · obtain ⟨rfl, rfl⟩ := Prod.mk.inj heq
        exact honce.items_once hg ((hiff _ hg).mpr hother) List.mem_cons_self hd
      · exact honce.items_once hg hother (List.mem_cons_of_mem _ hmem) hd
  | @item k k' names hf name hname d d' h before after members ih =>
    refine .record (fun g hg => ?_) fun names' kind hg other hother items hmem e he => ?_
    · have hlength := honce.fields_once g hg
      rwa [length_given_cons] at hlength ⊢
    · rcases List.mem_cons.mp hmem with heq | hmem
      · obtain ⟨rfl, hlist⟩ := Prod.mk.inj heq
        rw [Document.list.inj hlist] at he
        obtain ⟨rfl, rfl⟩ :=
          RecordField.records.inj (RecordKind.field_unique _ hf _ hg other hname hother)
        have hitem : ∀ e ∈ before ++ d :: after, GivenOnce k' e := fun e he =>
          honce.items_once hf hname List.mem_cons_self he
        rcases List.mem_append.mp he with hbefore | he
        · exact hitem e (List.mem_append_left _ hbefore)
        rcases List.mem_cons.mp he with rfl | hafter
        · exact ih (hitem d (by simp))
        · exact hitem e (List.mem_append_right _ (List.mem_cons_of_mem _ hafter))
      · exact honce.items_once hg hother (List.mem_cons_of_mem _ hmem) he

/-- Changes in turn are not seen by the reader. -/
theorem read?_of_varies (honce : GivenOnce k d) (h : ReflTransGen (Varies k) d d') :
    k.read? d' = k.read? d ∧ GivenOnce k d' := by
  induction h with
  | refl => exact ⟨rfl, honce⟩
  | tail _ hstep ih =>
    obtain ⟨hread, honce'⟩ := ih
    exact ⟨(hstep.read?_eq honce').trans hread, hstep.givenOnce honce'⟩

end Readings

/-! ### Fields that are given twice -/

/-- A value is read from the field. -/
def RecordField.IsRead (members : List (String × Document)) : RecordField → Prop
  | .needed name => ∃ i x, (Fields.named members).required i name text? = some x
  | .optional name => ∃ i x, (Fields.named members).optionalText i name = some x
  | .texts names => ∃ i xs, (Fields.named members).optionalList i names text? = some xs
  | .records names k => ∃ i xs, (Fields.named members).optionalList i names k.read? = some xs

/-- How many records can lie in each other below one of this kind. -/
def RecordKind.depth : RecordKind → Nat
  | .snapshot => 2
  | .host => 1
  | _ => 0

section Twice

variable {k k' : RecordKind} {f : RecordField} {members : List (String × Document)}
  {names : List String} {name name' : String} {d : Document}

lemma RecordKind.depth_lt (hf : .records names k' ∈ k.fields) : k'.depth < k.depth := by
  cases k
  all_goals simp [RecordKind.fields] at hf
  · rcases hf with ⟨-, rfl⟩ | ⟨-, rfl⟩ | ⟨-, rfl⟩ | ⟨-, rfl⟩
    all_goals decide
  · obtain ⟨-, rfl⟩ := hf
    decide

/-- Where a record is read, each of its fields is. -/
lemma isRead_of_read? {v : k.Value} (h : k.read? (.record members) = some v) :
    ∀ f ∈ k.fields, f.IsRead members := by
  have hnil : ∀ f ∈ [], RecordField.IsRead members f := List.forall_mem_nil _
  cases k
  all_goals
    simp only [RecordKind.fields, List.forall_mem_cons, RecordField.IsRead]
    simp only [RecordKind.read?] at h
  · simp only [Snapshot.ofDocument?, fields?_record, Option.bind_eq_bind, Option.bind_some,
      Option.bind_eq_some_iff] at h
    obtain ⟨_, h₀, _, h₁, _, h₂, _, h₃, -⟩ := h
    exact ⟨⟨_, _, h₀⟩, ⟨_, _, h₁⟩, ⟨_, _, h₂⟩, ⟨_, _, h₃⟩, hnil⟩
  · simp only [Datacenter.ofDocument?, fields?_record, Option.bind_eq_bind, Option.bind_some,
      Option.bind_eq_some_iff] at h
    obtain ⟨_, h₀, _, h₁, _, h₂, _, h₃, _, h₄, _, h₅, -⟩ := h
    exact ⟨⟨_, _, h₀⟩, ⟨_, _, h₁⟩, ⟨_, _, h₂⟩, ⟨_, _, h₃⟩, ⟨_, _, h₄⟩, ⟨_, _, h₅⟩, hnil⟩
  · simp only [Project.ofDocument?, fields?_record, Option.bind_eq_bind, Option.bind_some,
      Option.bind_eq_some_iff] at h
    obtain ⟨_, h₀, _, h₁, _, h₂, _, h₃, _, h₄, _, h₅, -⟩ := h
    exact ⟨⟨_, _, h₀⟩, ⟨_, _, h₁⟩, ⟨_, _, h₂⟩, ⟨_, _, h₃⟩, ⟨_, _, h₄⟩, ⟨_, _, h₅⟩, hnil⟩
  · simp only [HostGroup.ofDocument?, fields?_record, Option.bind_eq_bind, Option.bind_some,
      Option.bind_eq_some_iff] at h
    obtain ⟨_, h₀, _, h₁, _, h₂, _, h₃, _, h₄, _, h₅, _, h₆, -⟩ := h
    exact ⟨⟨_, _, h₀⟩, ⟨_, _, h₁⟩, ⟨_, _, h₂⟩, ⟨_, _, h₃⟩, ⟨_, _, h₄⟩, ⟨_, _, h₅⟩, ⟨_, _, h₆⟩, hnil⟩
  · simp only [Host.ofDocument?, fields?_record, Option.bind_eq_bind, Option.bind_some,
      Option.bind_eq_some_iff] at h
    obtain ⟨_, h₀, _, h₁, _, h₂, _, h₃, _, h₄, _, h₅, _, h₆, _, h₇, -⟩ := h
    exact ⟨⟨_, _, h₀⟩, ⟨_, _, h₁⟩, ⟨_, _, h₂⟩, ⟨_, _, h₃⟩, ⟨_, _, h₄⟩, ⟨_, _, h₅⟩, ⟨_, _, h₆⟩,
      ⟨_, _, h₇⟩, hnil⟩
  · simp only [CustomField.ofDocument?, fields?_record, Option.bind_eq_bind, Option.bind_some,
      Option.bind_eq_some_iff] at h
    obtain ⟨_, h₀, _, h₁, -⟩ := h
    exact ⟨⟨_, _, h₀⟩, ⟨_, _, h₁⟩, hnil⟩

/-- A field that is read is not given twice. -/
lemma length_given_le_one (h : f.IsRead members) : (given f.names members).length ≤ 1 := by
  by_contra hlength
  have hget : ∀ i, (Fields.named members).get i f.names = none := fun i =>
    get_of_given_twice (by omega)
  cases f
  all_goals
    obtain ⟨i, x, hread⟩ := h
    have hnone := hget i
    rw [RecordField.names] at hnone
    simp [Fields.required, Fields.optionalText, Fields.optionalList, Fields.optional,
      hnone] at hread

lemma exists_of_mapM {α : Type} {read : Document → Option α} {items : List Document} {xs : List α}
    (h : items.mapM read = some xs) : ∀ d ∈ items, ∃ x, read d = some x := by
  induction items generalizing xs with
  | nil => exact nofun
  | cons e items ih =>
    simp only [List.mapM_cons, Option.bind_eq_bind, Option.bind_eq_some_iff] at h
    obtain ⟨x, hx, ys, hys, -⟩ := h
    intro d hd
    rcases List.mem_cons.mp hd with rfl | hd
    · exact ⟨x, hx⟩
    · exact ih hys d hd

/-- A member that is given once is all that is given under its names. -/
lemma given_eq_singleton (honce : (given names members).length ≤ 1) (hname : name ∈ names)
    (hmem : (name, d) ∈ members) : given names members = [(name, d)] := by
  have hgiven : (name, d) ∈ given names members := by
    rw [given, List.mem_filter]
    exact ⟨hmem, by simpa using hname⟩
  cases hms : given names members with
  | nil => simp [hms] at hgiven
  | cons m ms =>
    rw [hms, List.length_cons] at honce
    obtain rfl := List.eq_nil_of_length_eq_zero (l := ms) (by omega)
    rw [hms, List.mem_singleton] at hgiven
    rw [hgiven]

/-- A document that is read gives no field twice, at any depth. -/
theorem givenOnce_of_read? (k : RecordKind) {d : Document} {v : k.Value} (h : k.read? d = some v) :
    GivenOnce k d := by
  by_cases hrecord : ∃ members, d = .record members
  · obtain ⟨members, rfl⟩ := hrecord
    have hread := isRead_of_read? h
    refine .record (fun f hf => length_given_le_one (hread f hf)) ?_
    intro names k' hf name hname items hmem e he
    have hlt := RecordKind.depth_lt hf
    have hgiven : given names members = [(name, .list items)] :=
      given_eq_singleton (length_given_le_one (hread _ hf)) hname hmem
    obtain ⟨i, xs, hxs⟩ := hread _ hf
    rw [Fields.optionalList, optional_named hgiven] at hxs
    obtain ⟨x, hx⟩ := exists_of_mapM hxs e he
    exact givenOnce_of_read? k' hx
  · exact .other fun members heq => hrecord ⟨members, heq⟩
termination_by k.depth

/-- A host whose tags or custom fields are given under both of their names is refused. -/
lemma host_refused {x y : Document} (hnames : name ≠ name') (hf : f ∈ RecordKind.host.fields)
    (hname : name ∈ f.names) (hname' : name' ∈ f.names) (hmem : (name, x) ∈ members)
    (hmem' : (name', y) ∈ members) : Host.ofDocument? (.record members) = none := by
  cases hread : Host.ofDocument? (.record members) with
  | none => rfl
  | some h =>
    have honce : (given f.names members).length ≤ 1 :=
      (givenOnce_of_read? .host hread).fields_once f hf
    have hgiven := given_eq_singleton honce hname hmem
    rw [given_eq_singleton honce hname' hmem'] at hgiven
    exact absurd (congrArg Prod.fst (List.singleton_inj.mp hgiven)).symm hnames

end Twice

/-- A document of inventory data that gives no field twice is read alike, or refused alike, after
any number of changes of its records: their members in another order, further members that are not
known, an empty list or nothing in place of a list that is `null`, nothing in place of a text that
is, and the other name for the tags and the custom fields of a host. Under both names they are
refused. -/
theorem readings_of_variations :
    (∀ (k : RecordKind) (d d' : Document), GivenOnce k d → ReflTransGen (Varies k) d d' →
      k.read? d' = k.read? d) ∧
    (∀ (members : List (String × Document)) (x y : Document),
      ("tags", x) ∈ members ∧ ("all_tags", y) ∈ members ∨
        ("custom_fields", x) ∈ members ∧ ("all_custom_fields", y) ∈ members →
      Host.ofDocument? (.record members) = none) := by
  constructor
  · intro k d d' honce hvaries
    exact (read?_of_varies honce hvaries).1
  · rintro members x y (⟨hx, hy⟩ | ⟨hx, hy⟩)
    · have hf : RecordField.texts ["tags", "all_tags"] ∈ RecordKind.host.fields := by decide
      exact host_refused (by decide) hf (by decide) (by decide) hx hy
    · have hf : RecordField.records ["custom_fields", "all_custom_fields"] .customField ∈
          RecordKind.host.fields := by decide
      exact host_refused (by decide) hf (by decide) (by decide) hx hy

/-- A host as it can be saved, and as a service could deliver it. -/
theorem readings_of_variations_of_delivered_host :
    let saved : List (String × Document) := [("_id", .text "7"), ("fqdn", .text "a.x"),
      ("description", .null), ("custom_fields", .null), ("tags", .list [.text "edge"])]
    let delivered : List (String × Document) := [("created_at", .text "2017"),
      ("all_tags", .list [.text "edge"]), ("_id", .text "7"), ("fqdn", .text "a.x")]
    let host : Host := ⟨"7", "a.x", none, none, none, none, ["edge"], []⟩
    GivenOnce .snapshot (.record [("hosts", .list [.record saved])]) ∧
      Snapshot.ofDocument? (.record [("hosts", .list [.record saved])]) =
        some { hosts := [host] } ∧
      Snapshot.ofDocument? (.record [("hosts", .list [.record delivered])]) =
        Snapshot.ofDocument? (.record [("hosts", .list [.record saved])]) ∧
      Host.ofDocument? (.record (("tags", .null) :: delivered)) = none := by
  intro saved delivered host
  have hread : RecordKind.read? .snapshot (.record [("hosts", .list [.record saved])]) =
      some { hosts := [host] } := rfl
  let known : List (String × Document) := [("_id", .text "7"), ("fqdn", .text "a.x")]
  let tagged : List (String × Document) := ("tags", .list [.text "edge"]) :: known
  let back : List (String × Document) := [("description", .null), ("custom_fields", .null),
    ("tags", .list [.text "edge"])]
  have horder : (known ++ back).Perm (back ++ known) := List.perm_append_comm
  have hdescription : Varies .host
      (.record (("description", .null) :: ("custom_fields", .null) :: tagged))
      (.record (("custom_fields", .null) :: tagged)) :=
    .leftOut (f := .optional "description") (by decide) rfl (by decide) _
  have hfields : Varies .host (.record (("custom_fields", .null) :: tagged)) (.record tagged) :=
    .leftOut (f := .records ["custom_fields", "all_custom_fields"] .customField) (by decide) rfl
      (by decide) _
  have htags : Varies .host (.record tagged)
      (.record (("all_tags", .list [.text "edge"]) :: known)) :=
    .renamed (f := .texts ["tags", "all_tags"]) (by decide) (by decide) (by decide) _ _
  have hcreated : Varies .host (.record (("all_tags", .list [.text "edge"]) :: known))
      (.record delivered) := .added (by decide) _ _
  have hhost : ReflTransGen (Varies .host) (.record saved) (.record delivered) :=
    ((((ReflTransGen.single (.permuted horder)).tail hdescription).tail hfields).tail htags).tail
      hcreated
  have hitem : ∀ d d', Varies .host d d' →
      Varies .snapshot (.record [("hosts", .list [d])]) (.record [("hosts", .list [d'])]) := by
    intro d d' h
    have hf : RecordField.records ["hosts"] .host ∈ RecordKind.snapshot.fields := by decide
    exact .item hf (by decide) h [] [] []
  have hsnapshot : ReflTransGen (Varies .snapshot) (.record [("hosts", .list [.record saved])])
      (.record [("hosts", .list [.record delivered])]) :=
    hhost.lift (fun d => Document.record [("hosts", .list [d])]) hitem
  have honce := givenOnce_of_read? .snapshot hread
  refine ⟨honce, hread, readings_of_variations.1 .snapshot _ _ honce hsnapshot, ?_⟩
  refine readings_of_variations.2 _ .null (.list [.text "edge"]) (.inl ⟨List.mem_cons_self, ?_⟩)
  exact List.mem_cons_of_mem _ (List.mem_cons_of_mem _ List.mem_cons_self)

end HostFleet.Proofs
