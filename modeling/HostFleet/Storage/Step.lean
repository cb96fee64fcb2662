import HostFleet.Storage.FileTree

/-!
# File steps

A plan to change files is a list of steps. `FileTree.perform` takes them in order up to the first
that fails and keeps what was done so far.
-/

namespace HostFleet

inductive FileStep where
  /-- Makes a folder with all folders around it. -/
  | create (folder : String)
  | write (path : String) (content : Bytes)
  | rename (source target : String)
  deriving DecidableEq

namespace FileTree

/-- The changed tree, or the same tree and why it was not changed. -/
def settle (t : FileTree) : Except OsError FileTree → FileTree × Option OsError
  | .ok t => (t, none)
  | .error e => (t, some e)

/-- The tree after a step, and why the step failed. -/
def step (t : FileTree) : FileStep → FileTree × Option OsError
  | .create folder => t.makeFolders folder
  | .write path content => t.settle (t.write path content)
  | .rename source target => t.settle (t.rename source target)

/-- The tree after the steps, with the step that failed and why. -/
def perform (t : FileTree) : List FileStep → FileTree × Option (FileStep × OsError)
  | [] => (t, none)
  | s :: rest =>
    match t.step s with
    | (t, none) => t.perform rest
    | (t, some e) => (t, some (s, e))

end FileTree

end HostFleet
