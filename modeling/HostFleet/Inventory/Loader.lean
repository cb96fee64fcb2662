import HostFleet.Completion.Index
import HostFleet.Inventory.Cache
import HostFleet.Inventory.Codec
import HostFleet.Inventory.Settings

/-!
# Bringing an inventory up

An `Inventory` is a store with its completion index. It comes from the service or, where that
fails, from the cache. Files are read through a function and changed by a plan of steps, so what
is decided depends on nothing but what the files hold.
-/

namespace HostFleet

/-- How a file is read. -/
abbrev FileReader := String → Except OsError Bytes

/-- What comes of asking the service. -/
inductive ServiceReply where
  /-- No connection, or one that was closed without a reply. -/
  | unreachable (detail : String)
  /-- A reply; `whole` tells whether all of its announced body arrived. -/
  | answered (status : Nat) (body : Bytes) (whole : Bool)

/-- The snapshot in a service's reply. -/
def ServiceReply.snapshot : ServiceReply → Except InventoryError Snapshot
  | .unreachable detail => .error (.transport detail)
  | .answered status body whole =>
    if status ≠ 200 then
      .error (.status status (if whole then Utf8.decodeLossy body else ""))
    else if !whole then .error (.transport "the reply ended early")
    else match (Json.read? body).bind Snapshot.ofReply? with
      | some s => .ok s
      | none => .error (.malformedReply "not an inventory")

/-- Where the data of an inventory came from. -/
inductive Outcome where
  | fetched
  | fromCache
  | unavailable
  deriving DecidableEq, Repr

structure Inventory where
  settings : InventorySettings
  store : Store
  index : Index

namespace Inventory

/-- An inventory that holds nothing yet. -/
def new (settings : InventorySettings) : Inventory := ⟨settings, {}, .empty⟩

def files (i : Inventory) : CacheFiles := .of i.settings.cacheDir i.settings.projects

/-- The inventory with another store and the index that belongs to it. -/
def install (i : Inventory) (s : Store) : Inventory :=
  { i with store := s, index := .ofStore s }

/-- The inventory with a cached snapshot. The cached index is taken only if it was saved together
with the snapshot; otherwise it is built anew. -/
def installCached (i : Inventory) (snapshot : Stamped Snapshot)
    (index : Except InventoryError (Stamped Index)) : Inventory :=
  let store := Store.ofSnapshot snapshot.data
  match index with
  | .ok index =>
    if index.time = snapshot.time then { i with store := store, index := index.data }
    else i.install store
  | .error _ => i.install store

/-- Loads the cache. Without `allowStale` it must not be expired. -/
def load (i : Inventory) (read : FileReader) (allowStale : Bool) (now : Instant) :
    Except InventoryError Inventory := do
  let data := i.files.data
  let snapshot ← CacheFiles.decode Snapshot.ofDocument? data (read data)
  if !allowStale && snapshot.isExpired i.settings.cacheTtl now then
    .error (.cacheExpired (snapshot.age now) i.settings.cacheTtl)
  else
    let index := i.files.index
    .ok (i.installCached snapshot (CacheFiles.decode Index.ofDocument? index (read index)))

/-- The steps that save the inventory: first the data, then the index with the same time. -/
def saveSteps (i : Inventory) (time : Instant) : List FileStep :=
  CacheFiles.saveSteps i.files.data
      (Json.encode (Stamped.toDocument Snapshot.toDocument ⟨time, i.store.toSnapshot⟩))
    ++ CacheFiles.saveSteps i.files.index
      (Json.encode (Stamped.toDocument Index.toDocument ⟨time, i.index⟩))

/-- What a fetch leads to. -/
structure Fetch where
  inventory : Inventory
  outcome : Outcome
  notices : List Notice

/-- What is left to do on the files: fresh data is saved. Failing to is no failure of the
fetch. -/
def Fetch.steps (f : Fetch) (time : Instant) : List FileStep :=
  if f.outcome = .fetched then f.inventory.saveSteps time else []

/-- Takes over what the service delivered, or else any cache, or else nothing. -/
def fetch (i : Inventory) (read : FileReader) (reply : ServiceReply) (now : Instant) : Fetch :=
  match reply.snapshot with
  | .ok snapshot => ⟨i.install (.ofSnapshot snapshot), .fetched, [.saving]⟩
  | .error e =>
    match i.load read true now with
    | .ok i => ⟨i, .fromCache, [.fetchFailed e, .fallingBack]⟩
    | .error _ =>
      ⟨i.install {}, .unavailable, [.fetchFailed e, .fallingBack, .unavailable]⟩

/-- Starts with a cache that is not expired, and otherwise fetches. With `dropCache` it always
fetches. The second part tells whether the service was asked. -/
def start (i : Inventory) (read : FileReader) (reply : ServiceReply) (now : Instant) :
    Fetch × Bool :=
  if i.settings.dropCache then (i.fetch read reply now, true)
  else match i.load read false now with
    | .ok i => (⟨i, .fromCache, []⟩, false)
    | .error _ => (i.fetch read reply now, true)

/-- Fetches whatever the cache holds. -/
def reload (i : Inventory) (read : FileReader) (reply : ServiceReply) (now : Instant) : Fetch :=
  let f := i.fetch read reply now
  { f with notices := .reloading :: f.notices }

end Inventory

end HostFleet
