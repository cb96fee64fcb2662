import HostFleet.Instant.Basic
import HostFleet.Text.Blank

/-!
# Instants as text

`Instant.parse?` reads a date, a time and an offset from UTC. It is lenient about blanks and
about numbers with fewer digits. `Instant.format` writes UTC, with a fraction of none, three, six
or nine digits.
-/

namespace HostFleet.Instant

def skipBlanks (cs : List Char) : List Char := cs.dropWhile isBlank

/-- The number that at most `limit` digits at the front spell, how many they are, and what
follows. -/
def digits? (limit : Nat) (cs : List Char) : Option (Nat × Nat × List Char) :=
  match (cs.take limit).takeWhile Char.isDigit with
  | [] => none
  | ds => some (ds.foldl (fun n c => n * 10 + (c.toNat - '0'.toNat)) 0, ds.length,
      cs.drop ds.length)

/-- A number of at most two digits after blanks, between `lo` and `hi`. -/
def twoDigits? (lo hi : Nat) (cs : List Char) : Option (Nat × List Char) := do
  let (n, _, rest) ← digits? 2 (skipBlanks cs)
  if lo ≤ n && n ≤ hi then some (n, rest) else none

/-- A year: four digits at most, or any number of them after a sign. -/
def year? (cs : List Char) : Option (Int × List Char) := do
  let (y, rest) ← match skipBlanks cs with
    | '-' :: rest => do
      let (n, _, rest) ← digits? rest.length rest
      some (-(n : Int), rest)
    | '+' :: rest => do
      let (n, _, rest) ← digits? rest.length rest
      some ((n : Int), rest)
    | rest => do
      let (n, _, rest) ← digits? 4 rest
      some ((n : Int), rest)
  if firstYear ≤ y && y ≤ lastYear then some (y, rest) else none

/-- Skips blanks and then the separator `c`. -/
def separator? (c : Char) (cs : List Char) : Option (List Char) :=
  match skipBlanks cs with
  | d :: rest => if d = c then some rest else none
  | [] => none

/-- The date at the front as a day number. -/
def date? (cs : List Char) : Option (Int × List Char) := do
  let (y, rest) ← year? cs
  let (m, rest) ← twoDigits? 1 12 (← separator? '-' rest)
  let (d, rest) ← twoDigits? 1 31 (← separator? '-' rest)
  if d ≤ daysInMonth y m then some (dayOfDate y m d, rest) else none

/-- A fraction of a second in nanoseconds; digits after the ninth are dropped. -/
def fraction? (cs : List Char) : Option (Nat × List Char) :=
  match cs with
  | '.' :: rest => do
    let (n, count, rest) ← digits? 9 rest
    some (n * Nat.pow 10 (9 - count), rest.dropWhile Char.isDigit)
  | _ => some (0, cs)

/-- The time of day at the front as seconds since midnight and nanoseconds. -/
def time? (cs : List Char) : Option (Nat × Nat × List Char) := do
  let (h, rest) ← twoDigits? 0 23 cs
  let (m, rest) ← twoDigits? 0 59 (← separator? ':' rest)
  let (s, rest) ← twoDigits? 0 60 (← separator? ':' rest)
  let (nano, rest) ← fraction? rest
  let (s, leap) := if s = 60 then (59, 1000000000) else (s, 0)
  some (h * 3600 + m * 60 + s, nano + leap, rest)

def exactlyTwo? (cs : List Char) : Option (Nat × List Char) :=
  match digits? 2 cs with
  | some (n, 2, rest) => some (n, rest)
  | _ => none

/-- The offset from UTC in seconds: `Z`, `UTC`, or a sign with hours and minutes. -/
def offset? (cs : List Char) : Option (Int × List Char) :=
  let cs := skipBlanks cs
  if (cs.take 3).map Char.toUpper = ['U', 'T', 'C'] then some (0, cs.drop 3)
  else match cs with
    | [] => none
    | c :: rest =>
      if c = 'Z' || c = 'z' then some (0, rest)
      else do
        let sign ← if c = '+' then some (1 : Int)
          else if c = '-' || c = '\u2212' then some (-1) else none
        let (h, rest) ← exactlyTwo? rest
        let (m, rest) ← exactlyTwo? (rest.dropWhile fun c => c = ':' || isBlank c)
        if m < 60 && h < 24 then some (sign * (h * 3600 + m * 60 : Nat), rest) else none

/-- The instant `second` seconds and `nano` nanoseconds after midnight of `day`, if the calendar
reaches that far. -/
def ofSeconds? (day : Int) (second : Int) (nano : Nat) : Option Instant :=
  let day := day + second / 86400
  if h : firstDay ≤ day ∧ day ≤ lastDay ∧ nano < 2000000000 then
    some ⟨day, (second % 86400).toNat, nano, by omega, h.2.2⟩
  else none

def isDateEnd (c : Char) : Bool := c = 'T' || c = 't' || c = ' '

/-- The instant that a date, a time and an offset name. -/
def parse? (s : String) : Option Instant := do
  let (day, rest) ← date? s.toList
  match rest with
  | c :: rest =>
    if !isDateEnd c then none
    else
      let (second, nano, rest) ← time? rest
      let (offset, rest) ← offset? rest
      if !(skipBlanks rest).isEmpty then none
      else ofSeconds? day (second - offset) nano
  | [] => none

def padded (width n : Nat) : List Char :=
  let ds := Nat.toDigits 10 n
  List.replicate (width - ds.length) '0' ++ ds

/-- Years outside 0 to 9999 carry a sign. -/
def formatYear (y : Int) : List Char :=
  if 0 ≤ y && y ≤ 9999 then padded 4 y.toNat
  else (if y < 0 then '-' else '+') :: padded 4 y.natAbs

def formatFraction (nano : Nat) : List Char :=
  if nano = 0 then []
  else if nano % 1000000 = 0 then '.' :: padded 3 (nano / 1000000)
  else if nano % 1000 = 0 then '.' :: padded 6 (nano / 1000)
  else '.' :: padded 9 nano

def format (t : Instant) : String :=
  let (y, m, d) := dateOfDay t.day
  let leap := t.nano / 1000000000
  String.ofList <|
    formatYear y ++ '-' :: padded 2 m ++ '-' :: padded 2 d
      ++ 'T' :: padded 2 (t.second / 3600)
      ++ ':' :: padded 2 (t.second / 60 % 60)
      ++ ':' :: padded 2 (t.second % 60 + leap)
      ++ formatFraction (t.nano % 1000000000) ++ ['Z']

end HostFleet.Instant
