import HostFleet.Text.CharClass

/-!
# Shell patterns

A pattern stands for texts: a star for any characters, a question mark for one, brackets for one
of several. A quoted character stands for itself. In the large dialect, a sign before parentheses
tells how often one of several patterns can stand there.
-/

namespace HostFleet.Shell

open CharClass

/-- A part of a bracket: characters from one to another, or those of a class. -/
inductive BracketItem where
  | range (lo hi : Char)
  | ofClass (name : String)
  deriving Repr

inductive PatternItem where
  | exact (c : Char)
  | one
  | many
  /-- A character that one of the items names, or that none does. -/
  | oneOf (outside : Bool) (items : List BracketItem)
  /-- One of several patterns, as often as a sign says. -/
  | group (sign : Char) (choices : List (List PatternItem))

/-- A character of a pattern, and whether it is quoted. -/
abbrev PatternChar := Char × Bool

def BracketItem.accepts (c : Char) : BracketItem → Bool
  | .range lo hi => lo ≤ c && c ≤ hi
  | .ofClass name => isOfClass name c

/-- The name of a class at the front of what follows `[:`. -/
def className? (cs : List PatternChar) : Option (String × List PatternChar) :=
  let name := (cs.takeWhile fun p => p.1.isAlpha).map Prod.fst
  let text := String.ofList name
  match cs.drop name.length with
  | (':', _) :: (']', _) :: rest => if classNames.contains text then some (text, rest) else none
  | _ => none

/-- The members of a bracket up to its end. -/
def bracket? (fuel : Nat) (first : Bool) (cs : List PatternChar) :
    Option (List BracketItem × List PatternChar) :=
  match fuel, cs with
  | 0, _ => none
  | _, [] => none
  | fuel + 1, (c, quoted) :: rest =>
    if c = ']' && !quoted && !first then some ([], rest)
    else
      let single : Option (List BracketItem × List PatternChar) :=
        match rest with
        | ('-', false) :: (d, dq) :: after =>
          if d = ']' && !dq then
            (bracket? fuel false rest).map fun (items, rest) => (.range c c :: items, rest)
          else (bracket? fuel false after).map fun (items, rest) => (.range c d :: items, rest)
        | _ => (bracket? fuel false rest).map fun (items, rest) => (.range c c :: items, rest)
      match c, quoted, rest with
      | '[', false, (':', false) :: after =>
        match className? after with
        | some (name, after) =>
          (bracket? fuel false after).map fun (items, rest) => (.ofClass name :: items, rest)
        | none => single
      | _, _, _ => single

/-- The parts of a text in parentheses that bars separate, and what follows the parenthesis. -/
def choices? (depth : Nat) (current : List PatternChar) (done : List (List PatternChar)) :
    List PatternChar → Option (List (List PatternChar) × List PatternChar)
  | [] => none
  | (c, quoted) :: rest =>
    if quoted then choices? depth ((c, quoted) :: current) done rest
    else if c = ')' then
      match depth with
      | 0 => some ((current.reverse :: done).reverse, rest)
      | depth + 1 => choices? depth ((c, quoted) :: current) done rest
    else if c = '(' then choices? (depth + 1) ((c, quoted) :: current) done rest
    else if c = '|' && depth = 0 then choices? depth [] (current.reverse :: done) rest
    else choices? depth ((c, quoted) :: current) done rest

/-- The items of a pattern. A bracket without an end stands for itself. -/
def patternItems (groups : Bool) (fuel : Nat) (cs : List PatternChar) : List PatternItem :=
  match fuel, cs with
  | 0, _ => []
  | _, [] => []
  | fuel + 1, (c, quoted) :: rest =>
    if quoted then .exact c :: patternItems groups fuel rest
    else
      let isGroup :=
        groups && ['@', '?', '*', '+', '!'].contains c && rest.head? = some ('(', false)
      match if isGroup then choices? 0 [] [] rest.tail else none with
      | some (parts, after) =>
        .group c (parts.map (patternItems groups fuel)) :: patternItems groups fuel after
      | none =>
        if c = '*' then .many :: patternItems groups fuel rest
        else if c = '?' then .one :: patternItems groups fuel rest
        else if c = '[' then
          let (outside, inside) := match rest with
            | ('!', false) :: inside => (true, inside)
            | ('^', false) :: inside => if groups then (true, inside) else (false, rest)
            | inside => (false, inside)
          match bracket? (inside.length + 1) true inside with
          | none => .exact c :: patternItems groups fuel rest
          | some (items, after) => .oneOf outside items :: patternItems groups fuel after
        else .exact c :: patternItems groups fuel rest

/-- What is left of a text after each way in which the items can stand for its front. -/
def remainders (fuel : Nat) (items : List PatternItem) (cs : List Char) : List (List Char) :=
  match fuel, items, cs with
  | 0, _, _ => []
  | _, [], cs => [cs]
  | fuel + 1, .many :: more, [] => remainders fuel more []
  | fuel + 1, .many :: more, c :: cs =>
    remainders fuel more (c :: cs) ++ remainders fuel (.many :: more) cs
  | fuel + 1, .group sign choices :: more, cs =>
    let once := choices.flatMap fun items => remainders fuel items cs
    match sign with
    | '@' => once.flatMap fun rest => remainders fuel more rest
    | '?' => (cs :: once).flatMap fun rest => remainders fuel more rest
    | '!' =>
      let ends := (List.range (cs.length + 1)).filter fun n =>
        !(choices.any fun items => (remainders fuel items (cs.take n)).any List.isEmpty)
      ends.flatMap fun n => remainders fuel more (cs.drop n)
    | sign =>
      let again := (once.filter fun rest => rest.length < cs.length).flatMap fun rest =>
        remainders fuel (.group '*' choices :: more) rest
      if sign = '*' then remainders fuel more cs ++ again
      else (once.filter fun rest => rest.length = cs.length).flatMap (remainders fuel more) ++ again
  | _, _ :: _, [] => []
  | fuel + 1, .exact d :: more, c :: cs => if c = d then remainders fuel more cs else []
  | fuel + 1, .one :: more, _ :: cs => remainders fuel more cs
  | fuel + 1, .oneOf outside items :: more, c :: cs =>
    if outside != items.any (BracketItem.accepts c) then remainders fuel more cs else []

def hasGroup (items : List PatternItem) : Bool :=
  items.any fun
    | .group .. => true
    | _ => false

def PatternItem.accepts : PatternItem → Char → Bool
  | .exact d, c => c == d
  | .one, _ => true
  | .oneOf outside items, c => outside != items.any (BracketItem.accepts c)
  | _, _ => false

/-- The places in a pattern without groups that are reached before anything is read. `here` tells
whether the first one is. -/
def firstPlaces (here : Bool) : List PatternItem → List Bool
  | [] => [here]
  | .many :: more => here :: firstPlaces here more
  | _ :: more => here :: firstPlaces false more

/-- The places reached behind one more character. -/
def nextPlaces (c : Char) (here : Bool) : List PatternItem → List Bool → List Bool
  | .many :: more, before :: places => (here || before) :: nextPlaces c (here || before) more places
  | item :: more, before :: places => here :: nextPlaces c (before && item.accepts c) more places
  | _, _ => [here]

/-- How long the parts at the front of a text are that items without groups stand for, with the
number of characters before it. -/
def frontLengths (items : List PatternItem) (n : Nat) (places : List Bool) :
    List Char → List Nat
  | [] => if places.getLast? = some true then [n] else []
  | c :: cs =>
    let more := if places.contains true then
        frontLengths items (n + 1) (nextPlaces c false items places) cs
      else []
    if places.getLast? = some true then n :: more else more

/-- A pattern that has been read. -/
abbrev Pattern := List PatternItem

namespace Pattern

def read (groups : Bool) (cs : List PatternChar) : Pattern :=
  patternItems groups (cs.length + 1) cs

/-- How long the parts at the front of a text are that the pattern stands for, shortest first. -/
def fronts (p : Pattern) (cs : List Char) : List Nat :=
  if hasGroup p then
    let lengths := (remainders (4 * (p.length + cs.length) + 40) p cs).map fun rest =>
      cs.length - rest.length
    (lengths.mergeSort fun a b => decide (a ≤ b)).eraseReps
  else frontLengths p 0 (firstPlaces true p) cs

def isMatch (p : Pattern) (cs : List Char) : Bool :=
  (p.fronts cs).getLast? = some cs.length

/-- How long the parts at the end of a text are that the pattern stands for, shortest first. -/
def backs (p : Pattern) (cs : List Char) : List Nat :=
  if hasGroup p then
    ((List.range (cs.length + 1)).filter fun n => p.isMatch (cs.drop (cs.length - n)))
  else Pattern.fronts p.reverse cs.reverse

/-- The text without the shortest, or longest, part at its front that the pattern stands for. -/
def trimFront (p : Pattern) (longest : Bool) (s : String) : String :=
  let cs := s.toList
  let lengths := p.fronts cs
  match if longest then lengths.getLast? else lengths.head? with
  | some n => String.ofList (cs.drop n)
  | none => s

/-- The text without the shortest, or longest, part at its end that the pattern stands for. -/
def trimBack (p : Pattern) (longest : Bool) (s : String) : String :=
  let cs := s.toList
  let lengths := p.backs cs
  match if longest then lengths.getLast? else lengths.head? with
  | some n => String.ofList (cs.take (cs.length - n))
  | none => s

/-- The length of the longest part at the front of a text that the pattern stands for. -/
def longestFront? (p : Pattern) (cs : List Char) : Option Nat := (p.fronts cs).getLast?

/-- The length of the longest part at the end of a text that the pattern stands for. -/
def longestBack? (p : Pattern) (cs : List Char) : Option Nat := (p.backs cs).getLast?

end Pattern

end HostFleet.Shell
