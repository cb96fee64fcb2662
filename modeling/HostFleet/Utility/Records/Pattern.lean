import HostFleet.Text.Regex
import HostFleet.Utility.Format

/-!
# Patterns

The notation of regular expressions in scripts for records: the extended one, in which braces stand
for themselves and a backslash gives characters that cannot be written.
-/

namespace HostFleet.Utility.Records

namespace Pattern

/-- What is wrong with a pattern. -/
inductive Fault where
  | parenthesis
  | bracket
  | operand
  | start
  | tooBig
  deriving DecidableEq, Repr

def Fault.message : Fault → String
  | .parenthesis => "missing ')'"
  | .bracket => "bad class -- [], [^] or ["
  | .operand => "missing operand"
  | .start => "syntax error ^* or ^+"
  | .tooBig => "resource exhaustion -- regular expression too large"

/-- The character that stands behind a backslash, and what follows it. -/
def escaped : List Char → Char × List Char
  | [] => ('\x5c', [])
  | c :: rest =>
    if Format.isOctal c then
      let ds := ((c :: rest).take 3).takeWhile Format.isOctal
      (Char.ofNat (Format.valueOf 8 ds % 256), (c :: rest).drop ds.length)
    else match c with
      | 'n' => ('\n', rest)
      | 't' => ('\t', rest)
      | 'r' => ('\r', rest)
      | 'f' => ('\x0c', rest)
      | 'v' => ('\x0b', rest)
      | 'a' => ('\x07', rest)
      | 'b' => ('\x08', rest)
      | 'x' =>
        let ds := (rest.take 2).takeWhile Format.isHex
        if ds.isEmpty then ('x', rest)
        else (Char.ofNat (Format.valueOf 16 ds), rest.drop ds.length)
      | c => (c, rest)

/-- The members of a bracket up to its end. -/
def members (fuel : Nat) (isFirst : Bool) (done : List Regex.Member) (cs : List Char) :
    Option (List Regex.Member × List Char) :=
  let one (c : Char) : Regex.Member := .range c c
  match fuel, cs with
  | 0, _ => none
  | _, [] => none
  | fuel + 1, '[' :: ':' :: rest =>
    match Regex.namedMember? ':' rest with
    | some (name, more) =>
      if CharClass.classNames.contains (String.ofList name) then
        members fuel false (.ofClass (String.ofList name) :: done) more
      else none
    | none => members fuel false (one '[' :: done) (':' :: rest)
  | fuel + 1, c :: rest =>
    if c = ']' && !isFirst then some (done.reverse, rest)
    else
      let (lo, rest) := if c = '\x5c' then escaped rest else (c, rest)
      match rest with
      | '-' :: ']' :: _ => members fuel false (one lo :: done) rest
      | '-' :: d :: more =>
        let (hi, more) := if d = '\x5c' then escaped more else (d, more)
        if lo ≤ hi then members fuel false (.range lo hi :: done) more
        else members fuel false (one hi :: one '-' :: one lo :: done) more
      | rest => members fuel false (one lo :: done) rest

/-- A part with the signs behind it that tell how often it is repeated. -/
def repeated (fuel : Nat) (r : Regex) (cs : List Char) : Except Fault (Regex × List Char) :=
  match fuel, cs with
  | fuel + 1, '*' :: rest =>
    if r matches .lineStart then .error .start else repeated fuel (.repeated r 0 none) rest
  | fuel + 1, '+' :: rest =>
    if r matches .lineStart then .error .start else repeated fuel (.repeated r 1 none) rest
  | fuel + 1, '?' :: rest => repeated fuel (.repeated r 0 (some 1)) rest
  | _, cs => .ok (r, cs)

mutual

/-- Patterns with bars between them. -/
def choices (fuel : Nat) (isInside : Bool) (cs : List Char) : Except Fault (Regex × List Char) :=
  match fuel with
  | 0 => .error .tooBig
  | fuel + 1 => do
    let (a, rest) ← sequence fuel isInside none cs
    match rest with
    | '|' :: rest => do
      let (b, rest) ← choices fuel isInside rest
      .ok (.alt a b, rest)
    | rest => .ok (a, rest)

/-- Parts one after the other, behind those that were read before. -/
def sequence (fuel : Nat) (isInside : Bool) (done : Option Regex) (cs : List Char) :
    Except Fault (Regex × List Char) :=
  match fuel with
  | 0 => .error .tooBig
  | fuel + 1 =>
    let isOver := match cs with
      | [] => true
      | c :: _ => c = '|' || (c = ')' && isInside)
    match isOver, done with
    | true, some r => .ok (r, cs)
    | true, none => .error (if isInside && cs.isEmpty then .parenthesis else .operand)
    | false, done => do
      let (r, rest) ← part fuel cs
      let (r, rest) ← repeated rest.length r rest
      sequence fuel isInside (some (match done with
        | some before => .seq before r
        | none => r)) rest

/-- One part without what tells how often it is repeated. -/
def part (fuel : Nat) (cs : List Char) : Except Fault (Regex × List Char) :=
  match fuel with
  | 0 => .error .tooBig
  | fuel + 1 =>
    match cs with
    | [] => .error .operand
    | '(' :: rest => do
      match ← choices fuel true rest with
      | (r, ')' :: rest) => .ok (r, rest)
      | _ => .error .parenthesis
    | '[' :: rest =>
      let (outside, rest) := match rest with
        | '^' :: rest => (true, rest)
        | rest => (false, rest)
      match members (rest.length + 1) true [] rest with
      | some (ms, rest) => .ok (.oneOf outside ms, rest)
      | none => .error .bracket
    | '.' :: rest => .ok (.any, rest)
    | '^' :: rest => .ok (.lineStart, rest)
    | '$' :: rest => .ok (.lineEnd, rest)
    | '\x5c' :: rest =>
      let (c, rest) := escaped rest
      .ok (.char c, rest)
    | c :: rest =>
      if c = '*' || c = '+' || c = '?' then .error .operand else .ok (.char c, rest)

end

/-- The expression that a text describes. -/
def read (text : String) : Except Fault Regex :=
  if text.isEmpty then .ok .empty
  else
    match choices (4 * text.length + 20) false text.toList with
    | .ok (r, _) => .ok r
    | .error e => .error e

end Pattern

end HostFleet.Utility.Records
