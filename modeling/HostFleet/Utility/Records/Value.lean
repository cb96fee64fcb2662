import HostFleet.Utility.Basic
import HostFleet.Utility.Format

/-!
# Values

What the variables and fields of a script for records hold: numbers and texts. A text that comes
from outside counts as a number too if it looks like one.
-/

namespace HostFleet.Utility.Records

inductive Value where
  /-- What a variable holds that nothing was given to. -/
  | missing
  | number (x : Float)
  | text (s : String)
  /-- A text from outside. -/
  | given (s : String)
  deriving Inhabited, Repr

/-! ## Numbers -/

def notNumber : Float := 0.0 / 0.0

/-- What is left after the multiples of `b` are taken away from `a`. It has the sign of `a`. -/
def remainder (a b : Float) : Float :=
  match Floating.ofFloat a, Floating.ofFloat b with
  | .finite negative m e, .finite _ n f =>
    if n = 0 then -notNumber
    else
      let low := min e f
      let r := m * Nat.pow 2 (e - low).toNat % (n * Nat.pow 2 (f - low).toNat)
      (Floating.ofRatio Floating.double negative (r * Nat.pow 2 low.toNat)
        (Nat.pow 2 (-low).toNat)).toFloat
  | .finite .., .infinite _ => a
  | .notNumber _, _ => a
  | _, .notNumber _ => b
  | _, _ => -notNumber

/-- A number in parts. One that is no number has a sign, as machines give it. -/
def parts (x : Float) : Floating := if x.isNaN then .notNumber true else Floating.ofFloat x

def isWhole (x : Float) : Bool := x.floor == x

/-- A number without what is behind its point, within the bounds of 64 bits. -/
def toInt (x : Float) : Int :=
  if x.isNaN then -(Int.pow 2 63)
  else if (9223372036854775808.0 : Float) ≤ x then Int.pow 2 63 - 1
  else if x ≤ (-9223372036854775808.0 : Float) then -(Int.pow 2 63) + 1
  else x.toInt64.toInt

/-- A number without what is behind its point. What is too large for 64 bits with a sign can be as
large as 64 bits without one. -/
def toWord (x : Float) : Int :=
  if (9223372036854775808.0 : Float) ≤ x then (x.toUInt64.toNat : Int) else toInt x

def ofInt (n : Int) : Float := Float.ofInt n

/-- The number at the front of a text, and what follows it. -/
def leadingNumber? (s : String) : Option (Float × List Char) :=
  (Floating.read? Floating.double (s.toList.dropWhile Format.isSpace)).map fun (x, rest) =>
    (x.toFloat, rest)

/-- The number that a text stands for: the one at its front. -/
def frontNumber (s : String) : Float :=
  match natural? s with
  | some n => if n < Nat.pow 2 53 then n.toFloat else ((leadingNumber? s).map (·.1)).getD 0
  | none => ((leadingNumber? s).map (·.1)).getD 0

/-- The number that a text looks like, if it looks like one. -/
def spelledNumber? (s : String) : Option Float :=
  let cs := s.toList.dropWhile Format.isSpace
  let kept := (cs.reverse.dropWhile Format.isSpace).reverse
  let mayStart := match kept.head? with
    | some c => c.isDigit || c = '+' || c = '-' || c = '.'
    | none => false
  let mayStop := match kept.getLast? with
    | some c => c.isDigit || c = '.'
    | none => false
  if !(mayStart && mayStop) then none
  else match Floating.read? Floating.double kept with
    | some (x, []) => some x.toFloat
    | _ => none

/-! ## Templates -/

/-- What is wrong with a template. -/
inductive TemplateFault where
  | tooFew
  /-- A conversion that there is not, by its number. -/
  | improper (n : Nat)
  deriving DecidableEq, Repr

/-- A whole number in digits. -/
def wholeText (x : Float) : String :=
  if x < 0 then "-" ++ toString (-x).toUInt64.toNat else toString x.toUInt64.toNat

/-- Whether a number is written in digits without a template. -/
def isPlain (x : Float) : Bool :=
  isWhole x && x ≤ (18446744073709551616.0 : Float) && (-9223372036854775808.0 : Float) ≤ x

namespace Value

def toNumber : Value → Float
  | .missing => 0
  | .number x => x
  | .text s => frontNumber s
  | .given s => frontNumber s

/-- The number that a value is, if it is one. -/
def number? : Value → Option Float
  | .missing => some 0
  | .number x => some x
  | .text _ => none
  | .given s => spelledNumber? s

def ofBool (b : Bool) : Value := .number (if b then 1 else 0)

def ofNat (n : Nat) : Value := .number n.toFloat

def isTrue : Value → Bool
  | .missing => false
  | .number x => x != 0
  | .text s => !s.isEmpty
  | .given s => match spelledNumber? s with
    | some x => x != 0
    | none => !s.isEmpty

end Value

/-- The width or precision at the front of the rest of a conversion, the values that are left, and
what follows. -/
def measure (args : List Value) : List Char → Option (Int × List Value × List Char)
  | '*' :: rest =>
    match args with
    | a :: args => some (toInt a.toNumber, args, rest)
    | [] => none
  | cs =>
    some (Format.valueOf 10 (cs.takeWhile Char.isDigit), args, cs.dropWhile Char.isDigit)

/-- The letters in front of a conversion that tell how long a number is. -/
def skipLength : List Char → List Char
  | 'l' :: 'l' :: cs => cs
  | 'l' :: cs => cs
  | 'h' :: cs => cs
  | cs => cs

/-- Fills values into a template. `plain` tells how a value becomes a text. Gives also what is wrong
with the template, if something is. -/
def fillTemplate (plain : Value → String) (fuel count : Nat) (done : List String) (cs : List Char)
    (args : List Value) : String × Option TemplateFault :=
  let result := String.join done.reverse
  match fuel, cs with
  | 0, _ => (result, none)
  | _, [] => (result, none)
  | _, '\x00' :: _ => (result, none)
  | fuel + 1, '%' :: '%' :: rest => fillTemplate plain fuel count ("%" :: done) rest args
  | fuel + 1, '%' :: rest =>
    let (s, rest) := Format.flags {} rest
    match measure args rest with
    | none => (result, some .tooFew)
    | some (width, args, rest) =>
      let s := if width < 0 then { s with left := true, width := width.natAbs }
        else { s with width := width.toNat }
      let precise := match rest with
        | '.' :: rest => (measure args rest).map fun (p, args, rest) =>
          (if p < 0 then none else some p.toNat, args, rest)
        | rest => some (none, args, rest)
      match precise with
      | none => (result, some .tooFew)
      | some (precision, args, rest) =>
        let s := { s with precision := precision }
        match args with
        | [] => (result, some .tooFew)
        | a :: args =>
          match skipLength rest with
          | [] => (result, some (.improper count))
          | c :: rest =>
            let shown? : Option (List Char) :=
              if c = 's' then some (s.text (plain a).toList)
              else if c = 'c' then
                let letter : Char := match a with
                  | .text t => t.toList.head?.getD '\x00'
                  | .given t => match spelledNumber? t with
                    | some x => Char.ofNat (toInt x % 256).toNat
                    | none => t.toList.head?.getD '\x00'
                  | a => Char.ofNat (toInt a.toNumber % 256).toNat
                some (s.pad [letter])
              else if ['d', 'i', 'o', 'x', 'X', 'u'].contains c then
                some (s.integer c (toWord a.toNumber))
              else if ['e', 'f', 'g', 'E', 'G'].contains c then
                some (s.floating c 1 (parts a.toNumber))
              else none
            match shown? with
            | none => (result, some (.improper count))
            | some shown =>
              fillTemplate plain fuel (count + 1) (String.ofList shown :: done) rest args
  | fuel + 1, c :: rest =>
    fillTemplate plain fuel count (String.singleton c :: done) rest args

/-- A number as a text: a whole one in digits, any other by a template. -/
def numberText (template : String) (x : Float) : String :=
  if isPlain x then wholeText x
  else (fillTemplate (fun _ => "") (template.length + 1) 1 [] template.toList [.number x]).1

/-- A value as a text. Numbers that are not whole are written by a template. -/
def Value.toText (template : String) : Value → String
  | .missing => ""
  | .number x => numberText template x
  | .text s => s
  | .given s => s

/-- Two values in order: as numbers if both are some, else as texts. -/
def Value.compare (template : String) (a b : Value) : Ordering :=
  match a.number?, b.number? with
  | some x, some y => if x < y then .lt else if y < x then .gt else .eq
  | _, _ => Ord.compare (a.toText template) (b.toText template)

end HostFleet.Utility.Records
