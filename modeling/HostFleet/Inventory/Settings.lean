import HostFleet.Document.Fields
import HostFleet.Storage.Path

/-!
# Inventory settings

Which projects to ask for, where the inventory service is, and how long a cached copy is good.
-/

namespace HostFleet

structure InventorySettings where
  projects : List String
  scheme : String
  host : String
  tcpPort : Nat
  cacheDir : String
  /-- Seconds. -/
  cacheTtl : Nat
  /-- Leaves the cache aside at the start. -/
  dropCache : Bool
  deriving DecidableEq, Repr, Inhabited

namespace InventorySettings

/-- The settings of a user with this home folder who has chosen nothing. -/
def defaults (home : String) : InventorySettings :=
  { projects := []
    scheme := "http"
    host := "localhost"
    tcpPort := 5000
    cacheDir := Path.join home ".fleetx_cache"
    cacheTtl := 3600
    dropCache := false }

def ofFields? (home : String) (f : Fields) : Option InventorySettings := do
  let base := defaults home
  some {
    projects := ← f.optional 0 ["projects"] base.projects (Document.listOf? Document.text?)
    scheme := ← f.optional 1 ["scheme"] base.scheme Document.text?
    host := ← f.optional 2 ["host"] base.host Document.text?
    tcpPort := ← f.optional 3 ["port"] base.tcpPort (Document.natBelow? (Nat.pow 2 16))
    cacheDir := ← f.optional 4 ["cache_dir"] base.cacheDir Document.text?
    cacheTtl := ← f.optional 5 ["cache_ttl"] base.cacheTtl (Document.natBelow? (Nat.pow 2 64))
    dropCache := ← f.optional 6 ["drop_cache"] base.dropCache Document.bool? }

def ofDocument? (home : String) (d : Document) : Option InventorySettings :=
  (d.fields? 7).bind (ofFields? home)

/-- The address to fetch the inventory from. -/
def endpoint (s : InventorySettings) : String :=
  let projects := ",".intercalate s.projects
  s!"{s.scheme}://{s.host}:{s.tcpPort}/api/v1/open/executer_data?projects={projects}&recursive=true"

end InventorySettings

end HostFleet
