import HostFleet.Utility.Records.Value
import Std.Data.HashMap

/-!
# Tables

Values under keys. The keys of a table come in the order of the lists that they are kept in: each
list holds the keys of one remainder of their hash, those used last in front.
-/

namespace HostFleet.Utility.Records

inductive Key where
  | text (s : String)
  | number (n : Int)
  deriving DecidableEq, Repr

namespace Key

/-- A key as the loops over a table see it. -/
def name : Key → String
  | .text s => s
  | .number n => toString n

/-- The hash of the text of a key: a product of a prime for each character. -/
def hash (s : String) : Nat :=
  (s.toList.foldl (fun (h : UInt32) c => (h ^^^ c.toNat.toUInt32) * 16777619) 2166136261).toNat

end Key

/-- A table. Keys that are numbers stand in lists of their own until the table is asked for a
text. -/
structure Table where
  values : Std.HashMap String Value := {}
  /-- The keys by the hash of their text, if the table was ever asked for a text. -/
  texts : Option (Array (List String)) := none
  /-- The keys that were used as numbers. -/
  numbers : Array (List Int) := #[]
  /-- Whether the keys are the numbers from one on, and in no lists. -/
  isSequence : Bool := false
  deriving Inhabited

namespace Table

/-- How many lists a table begins with, and how long they are on average at most. -/
def firstLists : Nat := 64

def listLength : Nat := 12

def size (t : Table) : Nat := t.values.size

def lists (t : Table) : Nat := t.numbers.size

/-- The list of a number among so many. -/
def slot (lists : Nat) (n : Int) : Nat := (n % lists).toNat

/-- Puts a key in front of its list. -/
def raise {α : Type} [BEq α] (all : Array (List α)) (i : Nat) (key : α) : Array (List α) :=
  all.modify i fun keys => match keys with
    | first :: _ => if first == key then keys else key :: keys.erase key
    | [] => [key]

def drop {α : Type} [BEq α] (all : Array (List α)) (i : Nat) (key : α) : Array (List α) :=
  all.modify i fun keys => keys.erase key

/-- How many lists hold so many keys. -/
def listsFor (fuel lists size : Nat) : Nat :=
  match fuel with
  | 0 => lists
  | fuel + 1 => if lists * listLength < size then listsFor fuel (2 * lists) size else lists

/-- The table of values in a sequence. -/
def ofList (values : List Value) : Table :=
  { values := .ofList (((List.range values.length).map fun i => toString (i + 1)).zip values)
    isSequence := true }

/-- The table with its keys in lists. -/
def spread (t : Table) : Table :=
  if t.isSequence then
    let lists := listsFor 64 firstLists t.size
    { t with
      isSequence := false
      numbers := (List.range t.size).foldl (fun all i =>
        raise all (slot lists (i + 1 : Nat)) ((i + 1 : Nat) : Int)) (Array.replicate lists []) }
  else if t.numbers.isEmpty then { t with numbers := Array.replicate firstLists [] }
  else t

/-- The table with the texts of its keys in lists. -/
def withTexts (t : Table) : Array (List String) × Table :=
  let t := t.spread
  match t.texts with
  | some all => (all, t)
  | none =>
    let all := t.numbers.toList.flatten.foldl (fun all n =>
      let s := toString n
      raise all (Key.hash s % t.lists) s) (Array.replicate t.lists [])
    (all, { t with texts := some all })

/-- Splits every list in two, by the list that `index` gives among twice as many. -/
def split {α : Type} (all : Array (List α)) (index : α → Nat) : Array (List α) :=
  let stays (i : Nat) (keys : List α) (kept : Bool) : List α :=
    keys.filter fun key => (index key == i) == kept
  let parts (kept : Bool) : List (List α) :=
    (List.range all.size).zipWith (fun i keys => stays i keys kept) all.toList
  (parts true ++ parts false).toArray

/-- The table with twice as many lists, if there are too many keys for those that it has. -/
def grow (t : Table) : Table :=
  if t.lists * listLength < t.size then
    let lists := 2 * t.lists
    { t with
      texts := t.texts.map fun all => split all fun s => Key.hash s % lists
      numbers := split t.numbers (slot lists) }
  else t

/-- Adds the value of a key that is new. -/
def insertNew (t : Table) (name : String) (v : Value) : Table :=
  { t with values := t.values.insert name v }.grow

/-- Uses a key: it comes to stand in front. A key that is not there is added if `creates` says
so. Tells whether it was there. -/
def use (t : Table) (key : Key) (creates : Bool) : Bool × Table :=
  let name := key.name
  let isThere := t.values.contains name
  let stays := isThere || creates
  let t := if stays && !isThere then t.spread.insertNew name .missing else t
  let withText (t : Table) (all : Array (List String)) : Table :=
    { t with texts := some (raise all (Key.hash name % t.lists) name) }
  match key with
  | .number n =>
    if t.isSequence && isThere then (true, t)
    else
      let t := t.spread
      if !stays then (false, t)
      else
        let isKnown := (t.numbers.getD (slot t.lists n) []).contains n
        let t := match t.texts, isKnown with
          | some all, false => withText t all
          | _, _ => t
        (isThere, { t with numbers := raise t.numbers (slot t.lists n) n })
  | .text _ =>
    let (all, t) := t.withTexts
    (isThere, if stays then withText t all else t)

def get (t : Table) (key : Key) : Value := (t.values[key.name]?).getD .missing

def set (t : Table) (key : Key) (v : Value) : Table :=
  { t with values := t.values.insert key.name v }

/-- Takes a key away. -/
def erase (t : Table) (key : Key) : Table :=
  match t.use key false with
  | (false, t) => t
  | (true, t) =>
    if t.size = 1 then {}
    else
      let t := t.spread
      let name := key.name
      let values := t.values.erase name
      let texts := t.texts.map fun all => drop all (Key.hash name % t.lists) name
      let numbers := match name.toInt? with
        | some n => if toString n = name then drop t.numbers (slot t.lists n) n else t.numbers
        | none => t.numbers
      { t with values := values, texts := texts, numbers := numbers }

/-- The keys in order. -/
def keys (t : Table) : List String × Table :=
  if t.size = 0 then ([], t)
  else
    let (all, t) := t.withTexts
    (all.toList.flatten, t)

end Table

end HostFleet.Utility.Records
