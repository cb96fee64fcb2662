/-!
# Instants

Points in time on the UTC calendar, to the nanosecond. A leap second is the second before it
with more than a billion nanoseconds.
-/

namespace HostFleet

structure Instant where
  /-- Days since 1970-01-01. -/
  day : Int
  /-- Seconds since midnight. -/
  second : Nat
  nano : Nat
  second_lt : second < 86400
  nano_lt : nano < 2000000000
  deriving DecidableEq

namespace Instant

instance : Inhabited Instant := ⟨⟨0, 0, 0, by decide, by decide⟩⟩

/-- The number of the day `d` of month `m` in year `y`, counted from 1970-01-01. Years begin in
March here, so the leap day is the last one. -/
def dayOfDate (y : Int) (m d : Nat) : Int :=
  let y := if m ≤ 2 then y - 1 else y
  let era := y.fdiv 400
  let yearOfEra := (y - era * 400).toNat
  let dayOfYear := (153 * ((m + 9) % 12) + 2) / 5 + d - 1
  let dayOfEra := yearOfEra * 365 + yearOfEra / 4 - yearOfEra / 100 + dayOfYear
  era * 146097 + dayOfEra - 719468

/-- Year, month and day of a day number. -/
def dateOfDay (n : Int) : Int × Nat × Nat :=
  let z := n + 719468
  let era := z.fdiv 146097
  let dayOfEra := (z - era * 146097).toNat
  let yearOfEra :=
    (dayOfEra + dayOfEra / 36524 - dayOfEra / 1460 - dayOfEra / 146096) / 365
  let dayOfYear := dayOfEra - (365 * yearOfEra + yearOfEra / 4 - yearOfEra / 100)
  let shifted := (5 * dayOfYear + 2) / 153
  let d := dayOfYear - (153 * shifted + 2) / 5 + 1
  let m := if shifted < 10 then shifted + 3 else shifted - 9
  let y := (yearOfEra : Int) + era * 400
  (if m ≤ 2 then y + 1 else y, m, d)

def isLeapYear (y : Int) : Bool :=
  y % 4 == 0 && (y % 100 != 0 || y % 400 == 0)

def daysInMonth (y : Int) (m : Nat) : Nat :=
  if m = 2 then if isLeapYear y then 29 else 28
  else if m = 4 || m = 6 || m = 9 || m = 11 then 30
  else 31

/-- The first and the last year that an instant can lie in. -/
def firstYear : Int := -262143
def lastYear : Int := 262142

def firstDay : Int := dayOfDate firstYear 1 1
def lastDay : Int := dayOfDate lastYear 12 31

/-- The leap second that lies between two times of day but shows in neither number of seconds:
one within the earlier time counts for the stretch after it. -/
def leapCorrection (s t : Instant) : Int :=
  if t.second > s.second && s.nano ≥ 1000000000 then 1
  else if t.second < s.second && t.nano ≥ 1000000000 then -1
  else 0

/-- Nanoseconds from `s` to `t`. -/
def elapsed (s t : Instant) : Int :=
  ((t.day - s.day) * 86400 + ((t.second : Int) - s.second) + leapCorrection s t) * 1000000000
    + ((t.nano : Int) - s.nano)

/-- Whole seconds from `s` to `t`; a part of a second does not count, in either direction. -/
def secondsBetween (s t : Instant) : Int :=
  (elapsed s t).tdiv 1000000000

end Instant

end HostFleet
