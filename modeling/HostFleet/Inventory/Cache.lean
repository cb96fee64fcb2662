import HostFleet.Document.Fields
import HostFleet.Document.Json.Reader
import HostFleet.Document.Json.Writer
import HostFleet.Instant.Text
import HostFleet.Inventory.Error
import HostFleet.Names
import HostFleet.Storage.Step

/-!
# Cache files

An inventory and its completion index are kept in two files named for the set of projects. Each
holds one value with the time of saving, and is written next to its place and then moved there.
-/

namespace HostFleet

/-- A value with the time at which it was saved. -/
structure Stamped (α : Type) where
  time : Instant
  data : α
  deriving DecidableEq

namespace Stamped

variable {α : Type}

/-- Whole seconds since the value was saved. -/
def age (v : Stamped α) (now : Instant) : Int := Instant.secondsBetween v.time now

/-- A value is good for `ttl` seconds, the last one included. -/
def isExpired (v : Stamped α) (ttl : Nat) (now : Instant) : Bool := v.age now > ttl

def ofDocument? (read : Document → Option α) (d : Document) : Option (Stamped α) := do
  let f ← d.fields? 2
  some {
    time := ← f.required 0 "ts" fun d => d.text?.bind Instant.parse?
    data := ← f.required 1 "data" read }

def toDocument (write : α → Document) (v : Stamped α) : Document :=
  .record [("ts", .text v.time.format), ("data", write v.data)]

end Stamped

/-- Where the cache of one set of projects is. -/
structure CacheFiles where
  data : String
  index : String
  deriving DecidableEq, Repr

namespace CacheFiles

/-- The version of the cache's format. -/
def formatVersion : String := "1.0.5"

/-- The files in a folder for the projects, whatever their order and however often they are
given. -/
def of (dir : String) (projects : List String) : CacheFiles :=
  let key := ".".intercalate (Std.ExtTreeSet.ofList projects : NameSet).toList
  { data := Path.join dir s!"cache_{key}{formatVersion}.json"
    index := Path.join dir s!"ac_{key}{formatVersion}.json" }

/-- Where a file is written before it is moved to its place. -/
def draft (path : String) : String := path ++ ".tmp"

/-- The steps that put a value into a cache file. -/
def saveSteps (path : String) (content : Bytes) : List FileStep :=
  (Path.parent? path).toList.map .create ++
    [.write (draft path) content, .rename (draft path) path]

/-- What it means for the cache that a step failed. -/
def faultOf : FileStep → OsError → CacheFault
  | .create folder, e => .creating folder e
  | .write path _, e => .writing path e
  | .rename source _, e => .renaming source e

/-- The value in a cache file that was read with this result. -/
def decode {α : Type} (read : Document → Option α) (path : String)
    (content : Except OsError Bytes) : Except InventoryError (Stamped α) :=
  match content with
  | .error .notFound => .error (.cacheMissing path)
  | .error e => .error (.cacheUnusable (.reading path e))
  | .ok bytes =>
    match (Json.read? bytes).bind (Stamped.ofDocument? read) with
    | some v => .ok v
    | none => .error (.cacheUnusable (.decoding path "not a cached value"))

end CacheFiles

end HostFleet
