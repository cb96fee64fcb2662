import HostFleet.Document.Toml.Reader
import HostFleet.Inventory.Settings
import HostFleet.Run.Engine
import HostFleet.Storage.OsError
import HostFleet.Transport.Launch

/-!
# Settings

What a user can write down in the settings file: how commands are run, and where the inventory
comes from. Everything has a default.
-/

namespace HostFleet

/-- What carries a command to a host. -/
inductive Carrier where
  | ssh
  /-- The command runs on this machine, for dry runs. -/
  | here
  deriving DecidableEq, Repr

namespace Carrier

def name : Carrier → String
  | .ssh => "ssh"
  | .here => "local"

def ofDocument? (d : Document) : Option Carrier :=
  match d.choice? Document.isHollow with
  | some "ssh" => some .ssh
  | some "local" => some .here
  | _ => none

end Carrier

structure MainSettings where
  user : String
  mode : Mode
  /-- The most hosts that are served at once. -/
  sshThreads : Nat
  logLevel : String
  carrier : Carrier
  pingCount : Nat
  sshOptions : List String
  deriving DecidableEq, Repr

/-- What the settings know about the user who runs the program. -/
structure Person where
  name : Option String
  home : String

namespace MainSettings

def defaults (p : Person) : MainSettings :=
  { user := RunSettings.defaultUser p.name
    mode := .collapse
    sshThreads := RunSettings.defaultPoolSize
    logLevel := "info"
    carrier := .ssh
    pingCount := Ping.defaultCount
    sshOptions := [] }

def ofDocument? (p : Person) (d : Document) : Option MainSettings := do
  let base := defaults p
  let f ← d.anyFields?
  some {
    user := ← f.optional 0 ["user"] base.user Document.text?
    mode := ← f.optional 1 ["mode"] base.mode (Mode.ofDocument? Document.isHollow)
    sshThreads := ← f.optional 2 ["ssh_threads"] base.sshThreads (Document.natBelow? (Nat.pow 2 64))
    logLevel := ← f.optional 3 ["log_level"] base.logLevel Document.text?
    carrier := ← f.optional 4 ["transport"] base.carrier Carrier.ofDocument?
    pingCount := ← f.optional 5 ["ping_count"] base.pingCount (Document.natBelow? (Nat.pow 2 32))
    sshOptions := ← f.optional 6 ["ssh_options"] base.sshOptions
      (Document.listOf? Document.text?) }

end MainSettings

structure Settings where
  main : MainSettings
  inventory : InventorySettings
  deriving DecidableEq, Repr

/-- Why a settings file is of no use. -/
inductive SettingsError where
  | reading (path : String) (e : OsError)
  | parsing (path : String) (detail : String)
  deriving DecidableEq, Repr

namespace SettingsError

/-- The message and what caused it. -/
def chain : SettingsError → List String
  | .reading path e => ["reading " ++ path, e.text]
  | .parsing path detail => ["parsing " ++ path, detail]

end SettingsError

namespace Settings

def defaults (p : Person) : Settings := ⟨.defaults p, .defaults p.home⟩

def ofDocument? (p : Person) (d : Document) : Option Settings := do
  let base := defaults p
  let f ← d.anyFields?
  some {
    main := ← f.optional 0 ["main"] base.main (MainSettings.ofDocument? p)
    inventory := ← f.optional 1 ["inventory"] base.inventory
      fun d => d.anyFields?.bind (InventorySettings.ofFields? p.home) }

/-- The settings in a file that was read with this result. -/
def decode (p : Person) (path : String) (content : Except OsError Bytes) :
    Except SettingsError Settings :=
  match content with
  | .error e => .error (.reading path e)
  | .ok bytes =>
    match Utf8.decode? bytes with
    | none => .error (.reading path .notText)
    | some text =>
      match (Toml.read? text).bind (ofDocument? p) with
      | some s => .ok s
      | none => .error (.parsing path "not a settings file")

end Settings

end HostFleet
