import HostFleet.Text.CharClass
import HostFleet.Utility.Options
import HostFleet.Utility.Stream

/-!
# Characters for characters

`tr` replaces, deletes and squeezes characters. Which ones is told by sets that name characters,
ranges and classes.
-/

namespace HostFleet.Utility

open Machine

namespace CharMap

/-- An item of a set. -/
inductive Item where
  | char (c : Char)
  | range (lo hi : Char)
  | ofClass (name : String)
  | same (c : Char)
  /-- A character so many times, or as often as is needed. -/
  | repeated (c : Char) (count : Option Nat)
  deriving DecidableEq

/-- The characters of a text, and whether each was given by an escape. -/
def unescape : List Char → List (Char × Bool)
  | [] => []
  | ['\x5c'] => [('\x5c', false)]
  | '\x5c' :: c :: rest =>
    let isOctal (c : Char) : Bool := '0' ≤ c && c ≤ '7'
    let value (ds : List Char) : Nat := ds.foldl (fun n d => n * 8 + (d.toNat - 48)) 0
    if isOctal c then
      let two := (rest.take 2).takeWhile isOctal
      let ds := if 255 < value (c :: two) then (c :: two).take 2 else c :: two
      (Char.ofNat (value ds), true) :: unescape (rest.drop (ds.length - 1))
    else
      let c := match c with
        | 'a' => '\x07'
        | 'b' => '\x08'
        | 'f' => '\x0c'
        | 'n' => '\n'
        | 'r' => '\r'
        | 't' => '\t'
        | 'v' => '\x0b'
        | c => c
      (c, true) :: unescape rest
  | c :: rest => (c, false) :: unescape rest
termination_by cs => cs.length
decreasing_by all_goals simp only [List.length_drop, List.length_cons]; omega

/-- What stands before two signs that close a bracket, and what follows. -/
def closing? (mark : Char) : List (Char × Bool) → Option (String × List (Char × Bool))
  | [] => none
  | c :: rest =>
    let later := (closing? mark rest).map fun (name, rest) => (String.singleton c.1 ++ name, rest)
    match rest with
    | (']', false) :: after => if c = (mark, false) then some ("", after) else later
    | _ => later

/-- A count of repetitions up to its bracket, and what follows. -/
def count? (cs : List (Char × Bool)) :
    Option (Except String (Option Nat) × List (Char × Bool)) :=
  let ds := (cs.takeWhile fun c => c != (']', false)).map Prod.fst
  match cs.drop ds.length with
  | [] => none
  | _ :: rest =>
    let base := if ds.head? = some '0' then 8 else 10
    let value := ds.foldl (fun n d => n * base + (d.toNat - 48)) 0
    if ds.all fun d => d.isDigit && d.toNat - 48 < base then
      some (.ok (if value = 0 then none else some value), rest)
    else
      some (.error ("invalid repeat count " ++ inQuotes (String.ofList ds)
        ++ " in [c*n] construct"), rest)

/-- The items that a text names. -/
def items (fuel : Nat) (cs : List (Char × Bool)) : Except String (List Item) :=
  match fuel, cs with
  | 0, _ => .ok []
  | _, [] => .ok []
  | fuel + 1, (c, escaped) :: rest =>
    let plain : Unit → Except String (List Item) := fun () =>
      match rest with
      | ('-', false) :: (d, _) :: more =>
        if d < c then
          .error (s!"range-endpoints of '{shown c}-{shown d}' are in reverse collating "
            ++ "sequence order")
        else (items fuel more).map (.range c d :: ·)
      | rest => (items fuel rest).map (.char c :: ·)
    if c != '[' || escaped then plain ()
    else match rest with
    | (':', false) :: more =>
      match closing? ':' more with
      | some (name, after) =>
        if CharClass.classNames.contains name then (items fuel after).map (.ofClass name :: ·)
        else .error ("invalid character class " ++ inQuotes name)
      | none => plain ()
    | ('=', false) :: more =>
      match closing? '=' more with
      | some (name, after) =>
        match name.toList with
        | [c] => (items fuel after).map (.same c :: ·)
        | _ => .error (name ++ ": equivalence class operand must be a single character")
      | none => plain ()
    | (d, _) :: ('*', false) :: more =>
      match count? more with
      | some (.ok n, after) => (items fuel after).map (.repeated d n :: ·)
      | some (.error e, _) => .error e
      | none => plain ()
    | _ => plain ()
where
  shown (c : Char) : String :=
    if 32 ≤ c.toNat && c.toNat ≤ 126 then String.singleton c else String.ofList (ShellWord.escape c)

def read (text : String) : Except String (List Item) :=
  items (text.length + 1) (unescape text.toList)

def bytes : List Char := (List.range 256).map Char.ofNat

/-- The characters of an item. -/
def Item.chars : Item → List Char
  | .char c => [c]
  | .range lo hi => bytes.filter fun c => lo ≤ c && c ≤ hi
  | .ofClass name => bytes.filter (CharClass.isOfClass name)
  | .same c => [c]
  | .repeated c n => List.replicate (n.getD 0) c

def expand (set : List Item) : List Char := set.flatMap Item.chars

/-- The characters of a set in which one item fills it up to a length. -/
def filled (size : Nat) (set : List Item) : List Char :=
  let missing := size - (expand set).length
  set.flatMap fun
    | .repeated c none => List.replicate missing c
    | item => item.chars

/-- Whether a class of letters of one case stands against another such class. -/
def isCase (i : Item) : Bool := i == .ofClass "upper" || i == .ofClass "lower"

/-- Whether the classes of a case in the second set stand against classes of a case in the first
one. -/
def isAligned (fuel : Nat) (a b : List (Item × Nat)) : Bool :=
  match fuel, a, b with
  | 0, _, _ => true
  | _, _, [] => true
  | _, [], b => !b.any fun i => isCase i.1
  | fuel + 1, (x, n) :: a, (y, m) :: b =>
    if isCase y then isCase x && n = 0 && m = 0 && isAligned fuel a b
    else if isCase x then
      let size := x.chars.length - n
      let other := y.chars.length - m
      if other ≤ size then isAligned fuel ((x, n + other) :: a) b
      else isAligned fuel a ((y, m + size) :: b)
    else
      let size := x.chars.length - n
      let other := y.chars.length - m
      if size = other then isAligned fuel a b
      else if size < other then isAligned fuel a ((y, m + size) :: b)
      else isAligned fuel ((x, n + other) :: a) b

/-- What each character becomes, or what is wrong with the sets. -/
def table (complement truncates : Bool) (first second : List Item) :
    Except String (List (Char × Char)) :=
  let members := expand first
  let from' := if complement then bytes.filter fun c => !members.contains c else members
  let isOther : Item → Bool
    | .ofClass name => name != "upper" && name != "lower"
    | _ => false
  let isSame : Item → Bool
    | .same _ => true
    | _ => false
  let to' := filled from'.length second
  if (second.filter fun i => i matches .repeated _ none).length > 1 then
    .error "only one [c*] repeat construct may appear in string2"
  else if second.any isSame then
    .error "[=c=] expressions may not appear in string2 when translating"
  else if second.any isOther then
    .error ("when translating, the only character classes that may appear in\n"
      ++ "string2 are 'upper' and 'lower'")
  else if !complement && !isAligned 2000 (first.map (·, 0)) (second.map (·, 0)) then
    .error "misaligned [:upper:] and/or [:lower:] construct"
  else if to'.isEmpty && !truncates then
    .error "when not truncating set1, string2 must be non-empty"
  else if to'.length < from'.length && !truncates && second.getLast?.any isCase then
    .error ("when translating with string1 longer than string2,\n"
      ++ "the latter string must not end with a character class")
  else if complement && first.any (fun i => i matches .ofClass _) && !truncates
      && 1 < to'.eraseDups.length then
    .error ("when translating with complemented character classes,\n"
      ++ "string2 must map all characters in the domain to one")
  else
    let pad := match to'.getLast? with
      | some c => if truncates then [] else List.replicate (from'.length - to'.length) c
      | none => []
    .ok (from'.zip (to' ++ pad))

/-- Leaves out characters of a set that stand behind the same one. -/
def squeeze (set : Array Bool) (last : Option Char) : List Char → List Char × Option Char
  | [] => ([], last)
  | c :: rest =>
    let (more, final) := squeeze set (some c) rest
    if last = some c && (set[c.toNat]?).getD false then (more, final) else (c :: more, final)

def options : Options where
  short := "AcCdst"
  long := [("complement", .none, "c"), ("delete", .none, "d"), ("squeeze-repeats", .none, "s"),
    ("truncate-set1", .none, "t")]
  anywhere := false

end CharMap

def tr : Utility := fun c => do
  let p ← CharMap.options.of c 1
  let deletes := p.has "d"
  let squeezes := p.has "s"
  let complement := p.has "c" || p.has "C"
  let least := if deletes == squeezes then 2 else 1
  let most := if deletes && !squeezes then 1 else 2
  match p.operands with
  | [] => c.misuse "missing operand" 1
  | [a] =>
    if least = 2 then
      c.misuse ("missing operand after " ++ inQuotes a ++ "\n"
        ++ (if deletes then "Two strings must be given when both deleting and squeezing repeats."
          else "Two strings must be given when translating.")) 1
  | _ => pure ()
  match p.operands[most]? with
  | some extra =>
    c.misuse ("extra operand " ++ inQuotes extra ++ (if most = 1 && p.operands.length = 2 then
      "\nOnly one string may be given when deleting without squeezing repeats." else "")) 1
  | none => pure ()
  let read (text : String) : Program (List CharMap.Item) := do
    let back := text.toList.reverse.takeWhile (· = '\x5c')
    if back.length % 2 = 1 then
      c.warn "warning: an unescaped backslash at end of string is not portable"
    match CharMap.read text with
    | .ok items => pure items
    | .error e => c.fail e 1
  let first ← read (p.operands.headD "")
  let second ← match p.operands[1]? with
    | some text => do pure (some (← read text))
    | none => pure none
  if first.any fun i => i matches .repeated _ none then
    c.fail "the [c*] repeat construct may not appear in string1" 1
  let members := CharMap.expand first
  let chosen := if complement then CharMap.bytes.filter fun c => !members.contains c else members
  let marks (cs : List Char) : Array Bool :=
    cs.foldl (fun a c => a.setIfInBounds c.toNat true) (Array.replicate 256 false)
  let translated : Array Char := CharMap.bytes.toArray
  let table ← match deletes, second with
    | false, some second =>
      match CharMap.table complement (p.has "t") first second with
      | .ok pairs =>
        pure (pairs.foldl (fun (a : Array Char) (x, y) => a.setIfInBounds x.toNat y) translated)
      | .error e => c.fail e 1
    | _, _ => pure translated
  let removed := if deletes then marks chosen else Array.replicate 256 false
  let squeezed := if !squeezes then Array.replicate 256 false
    else match second with
      | some items =>
        if deletes then marks (CharMap.expand items)
        else marks (CharMap.filled chosen.length items)
      | none => marks chosen
  let result ← eachPiece 0 Program.plenty (fun last text => do
    let kept := text.toList.filter fun c => !(removed[c.toNat]?).getD false
    let changed := kept.map fun c => (table[c.toNat]?).getD c
    let (out, last) := CharMap.squeeze squeezed last changed
    c.put (String.ofList out)
    pure (last, true)) none
  match result with
  | .ok _ => pure 0
  | .error e => c.fail ("read error: " ++ e.reason) 1

end HostFleet.Utility
