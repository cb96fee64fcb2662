import HostFleet.Storage.OsError

/-!
# What goes wrong with an inventory

The reasons why an inventory cannot be fetched, stored or loaded, and what is told to the user
on the way.
-/

namespace HostFleet

/-- What failed about a cache file. -/
inductive CacheFault where
  | reading (path : String) (e : OsError)
  | decoding (path : String) (detail : String)
  | creating (folder : String) (e : OsError)
  | writing (path : String) (e : OsError)
  | renaming (path : String) (e : OsError)
  deriving DecidableEq, Repr

def CacheFault.text : CacheFault → String
  | .reading path e => s!"reading {path}: {e.text}"
  | .decoding path detail => s!"decoding {path}: {detail}"
  | .creating folder e => s!"creating {folder}: {e.text}"
  | .writing path e => s!"writing {path}: {e.text}"
  | .renaming path e => s!"renaming {path}: {e.text}"

inductive InventoryError where
  /-- The copy is older than the settings allow, both in seconds. -/
  | cacheExpired (age : Int) (ttl : Nat)
  | cacheMissing (path : String)
  | cacheUnusable (fault : CacheFault)
  /-- The service could not be reached or did not finish its reply. -/
  | transport (detail : String)
  /-- The service answered with a status other than 200. -/
  | status (code : Nat) (body : String)
  | malformedReply (detail : String)
  /-- There is neither a service nor a cache. -/
  | unavailable
  deriving DecidableEq, Repr

namespace InventoryError

def cacheText (detail : String) : String := "cache error: " ++ detail

def text : InventoryError → String
  | .cacheExpired age ttl => s!"cache expired: {age}s old, ttl is {ttl}s"
  | .cacheMissing path => "cache not found: " ++ path
  | .cacheUnusable fault => cacheText fault.text
  | .transport detail => "transport error: " ++ detail
  | .status code body => s!"inventory service returned status {code}: {body}"
  | .malformedReply detail => "JSON parse error: " ++ detail
  | .unavailable => "no inventory service connection and no cache found"

end InventoryError

/-- What the user is told while an inventory is brought up. -/
inductive Notice where
  | reloading
  | saving
  | fetchFailed (e : InventoryError)
  | fallingBack
  | unavailable
  deriving DecidableEq, Repr

namespace Notice

def fetchFailedText (detail : String) : String := "Error fetching data: " ++ detail

def text : Notice → String
  | .reloading => "Reloading data..."
  | .saving => "Saving data..."
  | .fetchFailed e => fetchFailedText e.text
  | .fallingBack => "Falling back to cache"
  | .unavailable =>
    "No inventory service connection and no cache found. Check your configuration"

end Notice

end HostFleet
