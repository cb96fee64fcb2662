import HostFleet.Machine.Kernel

/-!
# Programs

A `Proc` is what is left of a running program: what it asks of the kernel next, and how it goes
on from there. A `Program α` is a piece of one that comes to a value of type `α`.
-/

namespace HostFleet.Machine

mutual

inductive Proc where
  | exit (code : Nat)
  /-- Something that takes a time in microseconds and is asked of the kernel under the number of
  the process. -/
  | act (cost : Nat) (ask : Nat → Kernel → Turn)
  /-- Splits a process off that begins with the descriptors which are chosen for it. -/
  | fork (choose : Descriptors → Descriptors) (child : Proc) (next : Nat → Proc)

/-- What comes of asking the kernel. -/
inductive Turn where
  /-- Another process has to act first. -/
  | notYet
  | next (k : Kernel) (p : Proc)

end

instance : Inhabited Proc := ⟨.exit 0⟩

def Program (α : Type) : Type := (α → Proc) → Proc

namespace Program

instance : Monad Program where
  pure a := fun next => next a
  bind x f := fun next => x fun a => f a next

/-- How long an operation of the kernel takes. -/
def callCost : Nat := 2

/-- Asks the kernel for something that may have to wait. -/
def await {α : Type} (ask : Nat → Kernel → Option (α × Kernel)) : Program α := fun next =>
  .act callCost fun pid k =>
    match ask pid k with
    | none => .notYet
    | some (a, k) => .next k (next a)

/-- Asks the kernel for something that is over at once. -/
def access {α : Type} (ask : Nat → Kernel → α × Kernel) : Program α :=
  await fun pid k => some (ask pid k)

def look {α : Type} (view : Nat → Kernel → α) : Program α := access fun pid k => (view pid k, k)

def change (f : Nat → Kernel → Kernel) : Program Unit := access fun pid k => ((), f pid k)

/-- Ends the process. -/
def exit {α : Type} (code : Nat) : Program α := fun _ => .exit code

/-- Lets time pass. -/
def spend (time : Nat) : Program Unit := fun next => .act time fun _ k => .next k (next ())

def fork (choose : Descriptors → Descriptors) (child : Proc) : Program Nat :=
  fun next => .fork choose child next

/-- A program that has nothing to go on to. -/
def toProc (p : Program Nat) : Proc := p .exit

def pid : Program Nat := look fun pid _ => pid

def read (fd : Nat) : Program (Except OsError String) :=
  await fun pid k => k.read pid fd Kernel.blockSize false

def readAtMost (fd count : Nat) : Program (Except OsError String) :=
  await fun pid k => k.read pid fd count false

/-- Reads up to the end of a line, or less if no more is there yet. -/
def readLine (fd : Nat) : Program (Except OsError String) :=
  await fun pid k => k.read pid fd 0 true

def write (fd : Nat) (text : String) : Program (Except OsError Unit) :=
  await fun pid k => k.write pid fd text

/-- Writes without asking whether it worked. -/
def tell (fd : Nat) (text : String) : Program Unit := discard (write fd text)

/-- Opens a path on the lowest free descriptor. -/
def openPath (path : String) (m : Kernel.OpenMode) : Program (Except OsError Nat) :=
  access fun pid k =>
    match k.openPath pid path m with
    | .error e => (.error e, k)
    | .ok (file, k) =>
      let fd := k.freeDescriptor pid 0
      (.ok fd, k.connect pid fd file)

def close (fd : Nat) : Program Unit := change fun pid k => k.disconnect pid fd

/-- Waits for the end of a child. A process that is no child has no ending. -/
def waitFor (child : Nat) : Program (Option Ending) := await fun pid k => k.reap pid child

def send (target signal : Nat) : Program Unit := change fun _ k => k.send target signal

def files : Program Files := look fun _ k => k.files

def folder : Program String := look fun pid k => k.folder pid

def now : Program Nat := look fun _ k => k.now

/-- Reads until nothing is left. -/
def readAll (fd : Nat) (fuel : Nat) (done : List String) : Program (Except OsError String) :=
  match fuel with
  | 0 => pure (.ok "")
  | fuel + 1 => do
    match ← read fd with
    | .error e => pure (.error e)
    | .ok "" => pure (.ok (String.join done.reverse))
    | .ok text => readAll fd fuel (text :: done)

/-- More turns than any loop takes in practice. -/
def plenty : Nat := Nat.pow 2 40

/-- The whole content of a file. -/
def readFile (path : String) : Program (Except OsError String) := do
  match ← openPath path { read := true } with
  | .error e => pure (.error e)
  | .ok fd => do
    let result ← readAll fd plenty []
    close fd
    pure result

end Program

end HostFleet.Machine
