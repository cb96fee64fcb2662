import HostFleet.Selector.Basic
import HostFleet.Text.Quoted
import HostFleet.Text.Utf8

/-!
# Reading selectors

A token is an optional sign, a target and filters, each part read as far as its characters go.
An expression is a list of tokens between commas. An error gives the byte of the token at which
reading stopped.
-/

namespace HostFleet.Selector

inductive Fault where
  | emptyToken
  | unexpected (c : Char)
  | targetMissing
  | secondDatacenter
  deriving DecidableEq, Repr

def Fault.text : Fault → String
  | .emptyToken => "empty selector"
  | .unexpected c => "unexpected " ++ Quoted.char c
  | .targetMissing => "expected a target"
  | .secondDatacenter => "more than one datacenter filter"

/-- Why a token is no selector, and at which of its bytes. -/
structure Error where
  token : String
  position : Nat
  fault : Fault
  deriving DecidableEq, Repr

/-- The message about a token that is no selector. -/
def invalidText (token : String) (position : Nat) (detail : String) : String :=
  s!"invalid selector {Quoted.text token} at position {position}: {detail}"

def Error.text (e : Error) : String := invalidText e.token e.position e.fault.text

def isNameChar (c : Char) : Bool := c.isAlphanum || c = '_' || c = '-' || c = '.'

def isLabelChar (c : Char) : Bool := c.isLower || c.isDigit || c = '_' || c = '-'

def isValueChar (c : Char) : Bool := isNameChar c || c = ':'

/-- All characters at the front that satisfy `p`, at least one, and what follows them. -/
def run? (p : Char → Bool) (cs : List Char) : Option (List Char × List Char) :=
  match cs.takeWhile p with
  | [] => none
  | taken => some (taken, cs.dropWhile p)

theorem run?_eq_some {p : Char → Bool} {cs taken rest : List Char}
    (h : run? p cs = some (taken, rest)) :
    taken ≠ [] ∧ (∀ c ∈ taken, p c = true) ∧ cs = taken ++ rest := by
  unfold run? at h
  split at h
  · simp at h
  · next hne =>
    simp only [Option.some.injEq, Prod.mk.injEq] at h
    obtain ⟨rfl, rfl⟩ := h
    exact ⟨hne, List.all_eq_true.1 List.all_takeWhile, List.takeWhile_append_dropWhile.symm⟩

theorem length_run? {p : Char → Bool} {cs taken rest : List Char}
    (h : run? p cs = some (taken, rest)) : rest.length < cs.length := by
  obtain ⟨hne, -, rfl⟩ := run?_eq_some h
  have := List.length_pos_iff.2 hne
  simp only [List.length_append]
  omega

def name? (cs : List Char) : Option (String × List Char) :=
  (run? isNameChar cs).map fun (taken, rest) => (String.ofList taken, rest)

theorem length_name? {cs rest : List Char} {s : String} (h : name? cs = some (s, rest)) :
    rest.length < cs.length := by
  simp only [name?, Option.map_eq_some_iff, Prod.exists, Prod.mk.injEq] at h
  obtain ⟨_, _, h, _, rfl⟩ := h
  exact length_run? h

def value? (cs : List Char) : Option (String × List Char) :=
  (run? isValueChar cs).map fun (taken, rest) => (String.ofList taken, rest)

theorem length_value? {cs rest : List Char} {s : String} (h : value? cs = some (s, rest)) :
    rest.length < cs.length := by
  simp only [value?, Option.map_eq_some_iff, Prod.exists, Prod.mk.injEq] at h
  obtain ⟨_, _, h, _, rfl⟩ := h
  exact length_run? h

/-- Whether the token excludes, and the token without its sign. -/
def readSign (cs : List Char) : Bool × List Char :=
  match cs with
  | '-' :: rest => (true, rest)
  | '+' :: rest => (false, rest)
  | _ => (false, cs)

/-- All further labels of a host name at the front, each after a dot. A dot that no label follows
is not read. -/
def readLabels (cs : List Char) : List Char × List Char :=
  match cs with
  | '.' :: rest =>
    match h : run? isLabelChar rest with
    | some (label, tail) =>
      have := length_run? h
      let (more, tail) := readLabels tail
      ('.' :: label ++ more, tail)
    | none => ([], '.' :: rest)
  | _ => ([], cs)
termination_by cs.length
decreasing_by
  simp only [List.length_cons]
  omega

/-- A host name: two labels or more. Without one, the characters at which reading stopped. -/
def readHostName (cs : List Char) : Except (List Char) (String × List Char) :=
  match run? isLabelChar cs with
  | none => .error cs
  | some (first, rest) =>
    match rest with
    | '.' :: second =>
      match run? isLabelChar second with
      | none => .error second
      | some _ =>
        let (more, tail) := readLabels rest
        .ok (String.ofList (first ++ more), tail)
    | _ => .error rest

/-- The target at the front and what follows it. Without one, the characters at which reading
stopped. -/
def readTarget (cs : List Char) : Except (List Char) (Target × List Char) :=
  match cs with
  | '%' :: rest =>
    match name? rest with
    | some (name, tail) => .ok (.group name, tail)
    | none => .error cs
  | '*' :: rest =>
    match name? rest with
    | some (name, tail) => .ok (.project name, tail)
    | none => .ok (.entire, rest)
  | _ => (readHostName cs).map fun (name, tail) => (.host name, tail)

/-- What follows `c` at the front. -/
def after? (c : Char) : List Char → Option (List Char)
  | d :: rest => if d = c then some rest else none
  | [] => none

theorem length_after? {c : Char} {cs rest : List Char} (h : after? c cs = some rest) :
    rest.length < cs.length := by
  unfold after? at h
  split at h
  · split at h <;> simp_all
  · simp at h

/-- The filter that begins with `c`, and what follows it. -/
def filter? (c : Char) (cs : List Char) : Option (Filter × List Char) :=
  if c = '@' then (name? cs).map fun (name, rest) => (.datacenter name, rest)
  else if c = '#' then (name? cs).map fun (name, rest) => (.tag name, rest)
  else if c = '[' then do
    let (key, rest) ← name? cs
    let (value, rest) ← value? (← after? '=' rest)
    some (.field key value, ← after? ']' rest)
  else none

theorem length_filter? {c : Char} {cs rest : List Char} {f : Filter}
    (h : filter? c cs = some (f, rest)) : rest.length < cs.length := by
  unfold filter? at h
  split at h
  · simp only [Option.map_eq_some_iff, Prod.exists, Prod.mk.injEq] at h
    obtain ⟨_, _, hn, _, rfl⟩ := h
    exact length_name? hn
  split at h
  · simp only [Option.map_eq_some_iff, Prod.exists, Prod.mk.injEq] at h
    obtain ⟨_, _, hn, _, rfl⟩ := h
    exact length_name? hn
  split at h
  · simp only [Option.bind_eq_bind, Option.bind_eq_some_iff, Option.some.injEq, Prod.exists,
      Prod.mk.injEq] at h
    obtain ⟨_, _, hk, _, he, _, _, hv, _, hb, _, rfl⟩ := h
    have := length_name? hk
    have := length_after? he
    have := length_value? hv
    have := length_after? hb
    omega
  · simp at h

/-- All filters at the front, and what follows them. -/
def readFilters (cs : List Char) : List Filter × List Char :=
  match cs with
  | [] => ([], [])
  | c :: cs =>
    match h : filter? c cs with
    | none => ([], c :: cs)
    | some (f, rest) =>
      have := length_filter? h
      let (fs, tail) := readFilters rest
      (f :: fs, tail)
termination_by cs.length
decreasing_by
  simp only [List.length_cons]
  omega

/-- A token in its parts, before the filters are put together. -/
structure Parts where
  exclude : Bool
  target : Target
  filters : List Filter
  deriving DecidableEq, Repr

/-- The parts of a whole token, or the characters at which reading stopped. -/
def readParts (cs : List Char) : Except (List Char) Parts :=
  let (exclude, rest) := readSign cs
  match readTarget rest with
  | .error stop => .error stop
  | .ok (target, rest) =>
    match readFilters rest with
    | (fs, []) => .ok ⟨exclude, target, fs⟩
    | (_, stop) => .error stop

/-- The selector that the parts make up, unless they name two datacenters. -/
def Parts.assemble? (p : Parts) : Option Selector :=
  p.filters.foldlM narrow? (plain p.exclude p.target)

/-- What is wrong with a token at which reading stopped before these characters. -/
def faultAt : List Char → Fault
  | c :: _ => .unexpected c
  | [] => .targetMissing

/-- The byte of the last `c` of the text, or 0 if there is none. -/
def lastByteOf (c : Char) (cs : List Char) : Nat :=
  if c ∈ cs then Utf8.sizeOf cs - Utf8.sizeOf (cs.reverse.takeWhile (· != c)) - c.utf8Size
  else 0

/-- The selector that a token spells. -/
def ofChars (cs : List Char) : Except Error Selector :=
  if cs.isEmpty then .error ⟨"", 0, .emptyToken⟩
  else match readParts cs with
    | .error stop =>
      .error ⟨String.ofList cs, Utf8.sizeOf cs - Utf8.sizeOf stop, faultAt stop⟩
    | .ok p =>
      match p.assemble? with
      | some s => .ok s
      | none => .error ⟨String.ofList cs, lastByteOf '@' cs, .secondDatacenter⟩

def parse (token : String) : Except Error Selector := ofChars token.toList

/-- The stretches between the commas of a text. -/
def tokens : List Char → List (List Char)
  | [] => [[]]
  | c :: cs =>
    if c = ',' then [] :: tokens cs
    else match tokens cs with
      | [] => [[c]]
      | first :: rest => (c :: first) :: rest

/-- The selectors of an expression, or the error of its first bad token. -/
def parseExpression (expr : String) : Except Error (List Selector) :=
  (tokens expr.toList).mapM ofChars

end HostFleet.Selector
