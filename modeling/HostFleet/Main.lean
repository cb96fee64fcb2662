import HostFleet.CommandLine.Program
import Std.Time.DateTime.Timestamp

/-!
# Main

The program on real files. What it may need is read before it decides, and what it changes is
written after, so that it decides on values only. Commands run in the shell of this library, and
no inventory service is reached.
-/

namespace HostFleet.Main

/-- Takes a file over into a tree, if it can be read. -/
def take (t : FileTree) (path : String) : IO FileTree := do
  try
    let content ← IO.FS.readBinFile path
    let withFolders := (Path.parent? path).elim t fun folder => (t.makeFolders folder).1
    pure ((withFolders.write path content.toList).toOption.getD t)
  catch _ => pure t

def takeAll (t : FileTree) (paths : List String) : IO FileTree := paths.foldlM take t

def now : IO Instant := do
  let t := (← Std.Time.Timestamp.now).toSecondsSinceUnixEpoch.val
  pure ((Instant.ofSeconds? (t / 86400) (t % 86400).toNat 0).getD default)

/-- The settings files that the arguments and the surroundings can lead to. -/
def settingsFiles (s : CommandLine.Surroundings) (args : List String) : List String :=
  let asked := match CommandLine.Request.ofArgs args with
    | .ok request => request.settings.toList
    | .error _ => []
  asked ++ s.settingsVariable.toList ++ s.usualSettings

/-- The cache files that the settings lead to. -/
def cacheFiles (s : CommandLine.Surroundings) (args : List String) : List String :=
  match CommandLine.Request.ofArgs args with
  | .error _ => []
  | .ok request =>
    match s.settings request.settings with
    | .error _ => []
    | .ok settings =>
      let files := CacheFiles.of settings.inventory.cacheDir settings.inventory.projects
      [files.data, files.index]

def perform : FileStep → IO Unit
  | .create folder => IO.FS.createDirAll folder
  | .write path content => IO.FS.writeBinFile path (ByteArray.mk content.toArray)
  | .rename source target => IO.FS.rename source target

def surroundings (args : List String) : IO CommandLine.Surroundings := do
  let home := (← IO.getEnv "HOME").getD "/"
  let user ← IO.getEnv "USER"
  let machine := LocalMachine.standard (user.getD "root") home
  let base : CommandLine.Surroundings :=
    { person := ⟨user, home⟩
      settingsVariable := ← IO.getEnv "FLEETX_CONFIG"
      machine := machine
      reply := .unreachable "no service can be reached"
      now := ← now }
  let withFiles (s : CommandLine.Surroundings) (paths : List String) :
      IO CommandLine.Surroundings := do
    pure { s with machine := { s.machine with files := ← takeAll s.machine.files paths } }
  let s ← withFiles base (settingsFiles base args)
  withFiles s (cacheFiles s args)

/-- Carries steps out up to the first that fails. -/
def performAll (steps : List FileStep) : IO Unit := do
  try steps.forM perform catch _ => pure ()

end HostFleet.Main

def main (args : List String) : IO UInt32 := do
  let a := HostFleet.CommandLine.run (← HostFleet.Main.surroundings args) args
  HostFleet.Main.performAll a.steps
  for m in a.messages do
    for line in m.lines do
      IO.eprintln line
  let output ← IO.getStdout
  output.write (ByteArray.mk a.output.toArray)
  output.flush
  return UInt32.ofNat a.code
