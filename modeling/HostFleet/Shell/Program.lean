import HostFleet.Names

/-!
# Shell programs

The commands of the shell language, with the words they are made of. Words keep their quotes
apart from their text, because expansion depends on them. What only the large dialect of the
language knows is part of the same types.
-/

namespace HostFleet.Shell

/-- The plain shell of every system, and the large one with arrays, conditions and loops of its
own. -/
inductive Dialect where
  | plain
  | large
  deriving DecidableEq, Repr

/-- What a parameter stands for when it is set, or not set, or empty. -/
inductive Treatment where
  | value
  /-- The number of its characters. -/
  | length
  /-- A word in place of a parameter that is not set, or empty if `orEmpty` says so. -/
  | orElse (orEmpty : Bool)
  /-- Like `orElse`, and the parameter is set to the word. -/
  | orSet (orEmpty : Bool)
  /-- Like `orElse`, but the word is an error message. -/
  | orFail (orEmpty : Bool)
  /-- A word in place of a parameter that is set. -/
  | andThen (orEmpty : Bool)
  /-- Without the part at the front, or at the end, that matches a pattern. -/
  | trim (front longest : Bool)
  /-- The characters from an offset on, perhaps only some of them. -/
  | slice
  /-- With a word in place of what matches a pattern: everywhere, or once, and only at the front
  or the end. -/
  | replace (everywhere atFront atEnd : Bool)
  /-- With large or small letters: the first one, or all. -/
  | recase (large all : Bool)
  /-- The value of the parameter whose name it holds. -/
  | indirect
  /-- The names that begin like this, or the keys of an array. -/
  | names
  /-- Written in another way, such as in quotes. -/
  | transform (how : Char)
  deriving DecidableEq, Repr

/-- Where a redirection leads. -/
inductive RedirectKind where
  | read
  | write
  /-- Like `write`, even if existing files are to be spared. -/
  | clobber
  | append
  | readWrite
  /-- The descriptor with this number; a dash closes. -/
  | duplicate
  /-- The text itself is the input. -/
  | here
  /-- A word and a newline are the input. -/
  | hereWord
  /-- Both outputs, to a file. -/
  | writeBoth (append : Bool)
  deriving DecidableEq, Repr

/-- What follows a clause of a `case` that was carried out. -/
inductive AfterClause where
  | done
  /-- The next clause, whatever its patterns are. -/
  | next
  /-- The next clause with a pattern that matches. -/
  | search
  deriving DecidableEq, Repr

mutual

inductive Part where
  | plain (s : String)
  /-- Text in quotes. -/
  | fixed (s : String)
  | parameter (quoted : Bool) (name : String) (subscript : Option (List Part)) (t : Treatment)
      (words : List (List Part))
  /-- The output of commands. -/
  | output (quoted : Bool) (body : List Command)
  /-- The path of a pipe to or from commands. -/
  | channel (isInput : Bool) (body : List Command)
  | arithmetic (quoted : Bool) (body : List Part)
  /-- A parameter expansion that makes no sense. -/
  | bad (text : String)

inductive Assignment where
  | value (name : String) (subscript : Option (List Part)) (adds : Bool) (word : List Part)
  | array (name : String) (adds : Bool) (items : List (Option (List Part) × List Part))

inductive Redirect where
  | mk (fd : Nat) (kind : RedirectKind) (word : List Part)

/-- The conditions between double brackets. -/
inductive Condition where
  | unary (op : String) (word : List Part)
  | binary (l : List Part) (op : String) (r : List Part)
  | word (w : List Part)
  | negation (c : Condition)
  | both (l r : Condition)
  | either (l r : Condition)

inductive Command where
  | simple (assignments : List Assignment) (words : List (List Part))
      (redirects : List Redirect) (line : Nat)
  | pipeline (stages : List Command)
  | negated (c : Command)
  | both (l r : Command)
  | either (l r : Command)
  | sequence (cs : List Command)
  | background (c : Command) (text : String)
  | subshell (c : Command)
  | branch (test yes : Command) (no : Option Command)
  /-- Goes on as long as the test succeeds, or as long as it fails. -/
  | loop (untilSuccess : Bool) (test body : Command)
  | each (name : String) (words : Option (List (List Part))) (body : Command) (line : Nat)
  | count (start test step : List Part) (body : Command)
  | choose (word : List Part) (clauses : List (List (List Part) × Command × AfterClause))
      (line : Nat)
  | define (name : String) (body : Command)
  | redirected (c : Command) (redirects : List Redirect) (line : Nat)
  | arithmetic (body : List Part) (line : Nat)
  | condition (c : Condition) (line : Nat)

end

abbrev Word := List Part

instance : Inhabited Command := ⟨.sequence []⟩

end HostFleet.Shell
