import HostFleet.Document.Basic
import HostFleet.Document.Toml.Text
import HostFleet.Instant.Basic

/-!
# Numbers, names and dates of TOML

A bare value is a run of characters that is a boolean, a number, or a date or time.
-/

namespace HostFleet.Toml

/-- The digits of a number whose underscores each stand between two digits. -/
def digits? (isDigit : Char → Bool) : List Char → Option (List Char)
  | [] => none
  | [c] => if isDigit c then some [c] else none
  | c :: '_' :: rest => if isDigit c then (digits? isDigit rest).map (c :: ·) else none
  | c :: rest => if isDigit c then (digits? isDigit rest).map (c :: ·) else none

def valueOf (base : Nat) (ds : List Char) : Nat :=
  ds.foldl (fun n d => n * base + (hexValue? d).getD 0) 0

/-- A whole number without sign: digits that do not begin with a zero, or the zero. -/
def decimal? (cs : List Char) : Option Nat := do
  let ds ← digits? Char.isDigit cs
  if ds.length > 1 && ds.head? = some '0' then none else some (valueOf 10 ds)

def isHex (c : Char) : Bool := (hexValue? c).isSome
def isOctal (c : Char) : Bool := '0' ≤ c && c ≤ '7'
def isBinary (c : Char) : Bool := c = '0' || c = '1'

/-- Whether a number is negative, and the number without its sign. -/
def signed : List Char → Bool × List Char
  | '-' :: rest => (true, rest)
  | '+' :: rest => (false, rest)
  | cs => (false, cs)

/-- The largest magnitudes that a whole number can have. -/
def inBounds (n : Int) : Bool := -(Int.pow 2 127) ≤ n && n < Int.pow 2 128

def integer? (cs : List Char) : Option Int := do
  let n ← match cs with
    | '0' :: 'x' :: ds => (digits? isHex ds).map fun ds => (valueOf 16 ds : Int)
    | '0' :: 'o' :: ds => (digits? isOctal ds).map fun ds => (valueOf 8 ds : Int)
    | '0' :: 'b' :: ds => (digits? isBinary ds).map fun ds => (valueOf 2 ds : Int)
    | cs =>
      let (negative, ds) := signed cs
      (decimal? ds).map fun n => if negative then -(n : Int) else n
  if inBounds n then some n else none

def isExponentMark (c : Char) : Bool := c = 'e' || c = 'E'

/-- Whether `n * 10 ^ e` is a number of double precision once it is rounded. Half a step beyond
the largest such number is too large. -/
def fitsDouble (n : Nat) (e : Int) : Bool :=
  if n = 0 || e < -400 - n.log2 then true
  else if 400 < e then false
  else if 0 ≤ e then n * Nat.pow 10 e.toNat < Nat.pow 2 1024 - Nat.pow 2 970
  else n < (Nat.pow 2 1024 - Nat.pow 2 970) * Nat.pow 10 (-e).toNat

/-- Whether the characters are a number with a fraction or an exponent that is not too large, or
one of the two names of numbers that are none. -/
def isFloat (cs : List Char) : Bool :=
  let cs := (signed cs).2
  if cs = ['i', 'n', 'f'] || cs = ['n', 'a', 'n'] then true
  else
    let mantissa := cs.takeWhile fun c => !isExponentMark c
    let point := mantissa.dropWhile (· != '.')
    let power := cs.dropWhile fun c => !isExponentMark c
    let fits : Option Bool := do
      let whole ← decimal? (mantissa.takeWhile (· != '.'))
      let fraction ← if point.isEmpty then some [] else digits? Char.isDigit point.tail
      let (negative, ds) := signed power.tail
      let ds ← if power.isEmpty then some [] else digits? Char.isDigit ds
      let e : Int := if negative then -(valueOf 10 ds : Int) else valueOf 10 ds
      let mantissa := whole * Nat.pow 10 fraction.length + valueOf 10 fraction
      some (fitsDouble mantissa (e - fraction.length) && !(point.isEmpty && power.isEmpty))
    fits == some true

/-- The number that exactly `count` digits at the front spell, and what follows. -/
def fixed? (count : Nat) (cs : List Char) : Option (Nat × List Char) :=
  let ds := cs.take count
  if ds.length = count && ds.all Char.isDigit then some (valueOf 10 ds, cs.drop count) else none

def expect? (c : Char) : List Char → Option (List Char)
  | d :: rest => if d = c then some rest else none
  | [] => none

/-- What follows a date of the calendar at the front. -/
def afterDate? (cs : List Char) : Option (List Char) := do
  let (y, rest) ← fixed? 4 cs
  let (m, rest) ← fixed? 2 (← expect? '-' rest)
  let (d, rest) ← fixed? 2 (← expect? '-' rest)
  if 1 ≤ m && m ≤ 12 && 1 ≤ d && d ≤ Instant.daysInMonth y m then some rest else none

/-- What follows a fraction of a second, if one stands there. -/
def afterFraction? : List Char → Option (List Char)
  | '.' :: rest =>
    if (rest.takeWhile Char.isDigit).isEmpty then none else some (rest.dropWhile Char.isDigit)
  | cs => some cs

/-- What follows a time of day at the front. Seconds can be left out. -/
def afterTime? (cs : List Char) : Option (List Char) := do
  let (h, rest) ← fixed? 2 cs
  let (m, rest) ← fixed? 2 (← expect? ':' rest)
  if 23 < h || 59 < m then none
  else match rest with
    | ':' :: rest => do
      let (s, rest) ← fixed? 2 rest
      if 60 < s then none else afterFraction? rest
    | rest => some rest

/-- Whether the characters are an offset from UTC. -/
def isOffset : List Char → Bool
  | [c] => c = 'Z' || c = 'z'
  | sign :: rest =>
    (sign = '+' || sign = '-') && ((do
      let (h, rest) ← fixed? 2 rest
      let (m, rest) ← fixed? 2 (← expect? ':' rest)
      some (h ≤ 23 && m ≤ 59 && rest.isEmpty) : Option Bool) == some true)
  | [] => false

def isMoment (cs : List Char) : Bool :=
  match afterDate? cs with
  | some [] => true
  | some (c :: rest) =>
    (c = 'T' || c = 't' || c = ' ') &&
      match afterTime? rest with
      | some rest => rest.isEmpty || isOffset rest
      | none => false
  | none => afterTime? cs == some []

def bare? (cs : List Char) : Option Document :=
  if cs = ['t', 'r', 'u', 'e'] then some (.bool true)
  else if cs = ['f', 'a', 'l', 's', 'e'] then some (.bool false)
  else if isMoment cs then some (.moment (String.ofList cs))
  else if isFloat cs then some (.decimal (String.ofList cs))
  else (integer? cs).map .int

def isBareChar (c : Char) : Bool :=
  c.isAlphanum || c = '_' || c = '-' || c = '+' || c = '.' || c = ':'

/-- The bare value at the front, and what follows it. A blank can stand between date and time. -/
def scalar? (cs : List Char) : Option (Document × List Char) :=
  let word := cs.takeWhile isBareChar
  let rest := cs.dropWhile isBareChar
  match afterDate? word, rest with
  | some [], ' ' :: c :: rest =>
    if c.isDigit then
      let time := (c :: rest).takeWhile isBareChar
      (bare? (word ++ ' ' :: time)).map fun d => (d, (c :: rest).dropWhile isBareChar)
    else (bare? word).map fun d => (d, ' ' :: c :: rest)
  | _, rest => (bare? word).map fun d => (d, rest)

end HostFleet.Toml
