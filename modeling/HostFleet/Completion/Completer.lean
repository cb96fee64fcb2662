import HostFleet.Document.Fields

/-!
# Completers

A completer keeps every item in a bucket under each of its beginnings, up to a limit of
characters. A longer beginning is looked up by its first characters.
-/

namespace HostFleet

structure Completer where
  /-- The most characters that a bucket's key has. -/
  maxLen : Nat
  buckets : NameMap NameSet
  deriving DecidableEq

namespace Completer

/-- An empty completer with keys of at most `n` characters, but of one at least. -/
def withMaxLen (n : Nat) : Completer := ⟨max n 1, ∅⟩

def defaultMaxLen : Nat := 10

def empty : Completer := withMaxLen defaultMaxLen

instance : Inhabited Completer := ⟨empty⟩

/-- The first `n` characters of a text. -/
def beginning (n : Nat) (s : String) : String := String.ofList (s.toList.take n)

/-- The keys under which an item is kept: its beginnings of 1 up to `maxLen` characters. -/
def keys (maxLen : Nat) (item : String) : List String :=
  (List.range (min maxLen item.length)).map fun i => beginning (i + 1) item

/-- Puts the item into the bucket with this key. -/
def addAt (item : String) (buckets : NameMap NameSet) (key : String) : NameMap NameSet :=
  buckets.alter key fun bucket => some ((bucket.getD ∅).insert item)

def add (c : Completer) (item : String) : Completer :=
  { c with buckets := (keys c.maxLen item).foldl (addAt item) c.buckets }

/-- Takes the item out of the bucket with this key. No bucket stays behind empty. -/
def removeAt (item : String) (buckets : NameMap NameSet) (key : String) : NameMap NameSet :=
  buckets.alter key fun bucket =>
    match bucket.map (·.erase item) with
    | some left => if left.isEmpty then none else some left
    | none => none

def remove (c : Completer) (item : String) : Completer :=
  { c with buckets := (keys c.maxLen item).foldl (removeAt item) c.buckets }

def ofList (items : List String) : Completer := items.foldl add empty

def isEmpty (c : Completer) : Bool := c.buckets.isEmpty

/-- The items of all buckets whose key is a single character. -/
def everything (c : Completer) : NameSet :=
  c.buckets.foldl (fun items key bucket => if key.length = 1 then items ∪ bucket else items) ∅

/-- Whether `s` begins with `start`. -/
def startsWith (start s : String) : Bool := start.toList.isPrefixOf s.toList

/-- The items that begin with `start`. -/
def complete (c : Completer) (start : String) : NameSet :=
  if start.isEmpty then c.everything
  else if start.length ≤ c.maxLen then c.buckets.getD start ∅
  else (c.buckets.getD (beginning c.maxLen start) ∅).filter (startsWith start)

/-- Buckets by key. Of equal keys the last counts. -/
def bucketsOf? (d : Document) : Option (NameMap NameSet) :=
  match d with
  | .record members => do
    let entries ← members.mapM fun ((key, items) : String × Document) => do
      let items ← items.listOf? Document.text?
      some (key, (Std.ExtTreeSet.ofList items : NameSet))
    some (Std.ExtTreeMap.ofList entries)
  | _ => none

def ofDocument? (d : Document) : Option Completer := do
  let f ← d.fields? 2
  some {
    maxLen := ← f.required 0 "max_len" (Document.natBelow? (Nat.pow 2 64))
    buckets := ← f.required 1 "buckets" bucketsOf? }

def toDocument (c : Completer) : Document :=
  .record [("max_len", .int c.maxLen),
    ("buckets", .record (c.buckets.toList.map fun (key, bucket) =>
      (key, .list (bucket.toList.map .text))))]

end Completer

end HostFleet
