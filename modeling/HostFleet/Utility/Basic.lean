import HostFleet.Machine.Program
import HostFleet.Text.ShellWord

/-!
# Utilities

A utility is a program that is called by a name with arguments and variables, and ends with
an exit code. What most of them have in common stands here: how they complain, how they read their
files, and how they write.
-/

namespace HostFleet

open Machine

/-- Variables that a program is given, in order. -/
abbrev Environment := List (String × String)

/-- How a program is called. -/
structure Utility.Call where
  name : String
  args : List String
  vars : Environment := []
  /-- Goes on as another program, given by its name or path, its arguments and its variables, or
  tells why that cannot be done. -/
  become : String → List String → Environment → Program OsError := fun _ _ _ => pure .notFound

abbrev Utility := Utility.Call → Program Nat

namespace Utility

namespace Call

/-- A message under the name of the program. -/
def warn (c : Call) (message : String) : Program Unit :=
  Program.tell 2 (c.name ++ ": " ++ message ++ "\n")

/-- A message that ends the program. -/
def fail {α : Type} (c : Call) (message : String) (code : Nat) : Program α := do
  c.warn message
  Program.exit code

def hint (c : Call) : String := "Try '" ++ c.name ++ " --help' for more information."

/-- A message about a call that makes no sense. It ends the program. -/
def misuse {α : Type} (c : Call) (message : String) (code : Nat) : Program α :=
  c.fail (message ++ "\n" ++ c.hint) code

/-- Writes to the standard output. A program whose output is refused ends. -/
def putOr (c : Call) (code : Nat) (text : String) : Program Unit := do
  if text.isEmpty then pure ()
  else match ← Program.write 1 text with
    | .ok () => pure ()
    | .error e => c.fail ("write error: " ++ e.reason) code

def put (c : Call) (text : String) : Program Unit := c.putOr 1 text

/-- The content of a file; a dash is the standard input. -/
def slurp (name : String) : Program (Except OsError String) :=
  if name = "-" then Program.readAll 0 Program.plenty [] else Program.readFile name

/-- The contents of files, or of the standard input if there are none. Those that cannot be read
are reported. Tells also whether all could be read. -/
def gather (c : Call) (names : List String) (about : String → String) :
    Program (List String × Bool) := do
  let mut texts := []
  let mut fine := true
  for name in if names.isEmpty then ["-"] else names do
    match ← slurp name with
    | .ok text => texts := text :: texts
    | .error e => do
      c.warn (about name ++ ": " ++ e.reason)
      fine := false
  pure (texts.reverse, fine)

end Call

/-- A number in decimal digits. -/
def natural? (s : String) : Option Nat :=
  if !s.isEmpty && s.all Char.isDigit then s.toNat? else none

def padLeft (width : Nat) (text : String) : String := "".pushn ' ' (width - text.length) ++ text

def padRight (width : Nat) (text : String) : String := text.pushn ' ' (width - text.length)

/-- The text between quotes, as messages show what was given. -/
def inQuotes (s : String) : String := ShellWord.shown s

/-- A name, between quotes if it needs any. -/
def nameText (s : String) : String := ShellWord.quoted s

/-- A text up to the first place where `p` holds, and the rest from there on. -/
def cutAt (p : Char → Bool) (s : String) : String × String :=
  let front := s.toList.takeWhile fun c => !p c
  (String.ofList front, String.ofList (s.toList.drop front.length))

/-- The text without its first characters. -/
def dropFront (n : Nat) (s : String) : String := String.ofList (s.toList.drop n)

/-- What stands before the first equals sign of a text, and what stands behind it. -/
def splitAssignment (s : String) : String × Option String :=
  match cutAt (· = '=') s with
  | (name, "") => (name, none)
  | (name, rest) => (name, some (dropFront 1 rest))

end Utility

end HostFleet
