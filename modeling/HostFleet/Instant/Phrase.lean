import HostFleet.Instant.Template

/-!
# Times in everyday words

`Moment.ofPhrase?` reads a time as people write it: dates and times of day in several forms, names
of days, zones, and distances such as "2 days ago".
-/

namespace HostFleet.Phrase

inductive Token where
  /-- A number, its digits, and its sign if it has one. -/
  | number (n : Nat) (digits : Nat) (sign : Option Char)
  /-- The digits behind a point. -/
  | fraction (digits : List Char)
  | word (s : String)
  | sign (c : Char)
  deriving DecidableEq, Repr

/-- The tokens of a phrase. Remarks in parentheses and commas do not count. -/
def tokens (fuel : Nat) (cs : List Char) : Option (List Token) :=
  match fuel, cs with
  | 0, _ => none
  | _, [] => some []
  | fuel + 1, c :: rest =>
    let digits := (c :: rest).takeWhile Char.isDigit
    if c = ' ' || c = '\t' || c = '\n' || c = ',' then tokens fuel rest
    else if c = '(' then tokens fuel ((rest.dropWhile (· != ')')).drop 1)
    else if c.isDigit then do
      let n := digits.foldl (fun n c => n * 10 + (c.toNat - 48)) 0
      some (.number n digits.length none :: (← tokens fuel ((c :: rest).drop digits.length)))
    else if (c = '.' || c = ',') && rest.head?.any Char.isDigit then do
      let digits := rest.takeWhile Char.isDigit
      some (.fraction digits :: (← tokens fuel (rest.drop digits.length)))
    else if c.isAlpha then do
      let letters := (c :: rest).takeWhile fun c => c.isAlpha || c = '.'
      let word := String.ofList ((letters.filter (· != '.')).map Char.toLower)
      some (.word word :: (← tokens fuel ((c :: rest).drop letters.length)))
    else if (c = '+' || c = '-') && rest.head?.any Char.isDigit then do
      let digits := rest.takeWhile Char.isDigit
      let n := digits.foldl (fun n c => n * 10 + (c.toNat - 48)) 0
      some (.number n digits.length (some c) :: (← tokens fuel (rest.drop digits.length)))
    else if ['+', '-', ':', '/', '@'].contains c then do
      some (.sign c :: (← tokens fuel rest))
    else none

/-- What a phrase has said so far. -/
structure Said where
  date : Option (Int × Nat × Nat) := none
  /-- Seconds since midnight, and billionths of a second. -/
  time : Option (Nat × Nat) := none
  zone : Option Int := none
  weekday : Option (Int × Nat) := none
  months : Int := 0
  days : Int := 0
  seconds : Int := 0
  isRelative : Bool := false
  epoch : Option (Int × Nat) := none
  deriving Inhabited

def monthOf? (w : String) : Option Nat :=
  let names := Moment.monthNames.map String.toLower
  (names.findIdx? fun n => n == w || (String.ofList (n.toList.take 3)) == w
    || (w == "sept" && n == "september")).map (· + 1)

def weekdayOf? (w : String) : Option Nat :=
  let names := Moment.weekdayNames.map String.toLower
  names.findIdx? fun n => n == w || (String.ofList (n.toList.take 3)) == w
    || (["tues", "wednes", "thur", "thurs"].contains w && n.startsWith w)

/-- What a unit of time comes to: months, days and seconds. -/
def unitOf? (w : String) : Option (Int × Int × Int) :=
  let w := if w.endsWith "s" && 3 < w.length then String.ofList w.toList.dropLast else w
  [("year", (12, 0, 0)), ("month", (1, 0, 0)), ("fortnight", (0, 14, 0)), ("week", (0, 7, 0)),
    ("day", (0, 1, 0)), ("hour", (0, 0, 3600)), ("minute", (0, 0, 60)), ("min", (0, 0, 60)),
    ("second", (0, 0, 1)), ("sec", (0, 0, 1))].lookup w

/-- How many seconds a zone of this name is ahead. -/
def zoneOf? (w : String) : Option Int :=
  ([("utc", 0), ("gmt", 0), ("ut", 0), ("z", 0), ("wet", 0), ("cet", 3600), ("cest", 7200),
    ("eet", 7200), ("msk", 10800), ("est", -18000), ("edt", -14400), ("cst", -21600),
    ("cdt", -18000), ("mst", -25200), ("mdt", -21600), ("pst", -28800), ("pdt", -25200)] :
    List (String × Int)).lookup w

def ordinalOf? (w : String) : Option Int :=
  [("last", -1), ("this", 0), ("next", 1), ("first", 1), ("third", 3), ("fourth", 4), ("fifth", 5),
    ("sixth", 6), ("seventh", 7), ("eighth", 8), ("ninth", 9), ("tenth", 10), ("eleventh", 11),
    ("twelfth", 12)].lookup w

namespace Said

def add (s : Said) (n : Int) (unit : Int × Int × Int) : Said :=
  { s with
    months := s.months + n * unit.1
    days := s.days + n * unit.2.1
    seconds := s.seconds + n * unit.2.2
    isRelative := true }

def withDate (s : Said) (y : Int) (m d : Nat) : Option Said :=
  if s.date.isSome || m < 1 || 12 < m || d < 1 || Instant.daysInMonth y m < d then none
  else some { s with date := some (y, m, d) }

def withTime (s : Said) (h m sec nano : Nat) : Option Said :=
  if s.time.isSome || 24 ≤ h || 60 ≤ m || 61 ≤ sec then none
  else some { s with time := some (h * 3600 + m * 60 + sec, nano) }

/-- The year that a number of so many digits stands for. -/
def fullYear (n digits : Nat) : Int :=
  if digits ≤ 2 then if n < 69 then 2000 + n else 1900 + n else n

end Said

def nanos (digits : List Char) : Nat :=
  ((digits ++ List.replicate 9 '0').take 9).foldl (fun n c => n * 10 + (c.toNat - 48)) 0

/-- An hour of a half of the day. -/
def halfDay? (h : Nat) (w : String) : Option Nat :=
  if h < 1 || 12 < h then none
  else if w = "am" then some (h % 12)
  else if w = "pm" then some (h % 12 + 12) else none

/-- The distance of a zone from UTC behind its sign. -/
def offset (n digits : Nat) (c : Char) : Int :=
  let sign : Int := if c = '-' then -1 else 1
  if digits ≤ 2 then sign * (n * 3600) else sign * ((n / 100 * 3600 + n % 100 * 60 : Nat) : Int)

/-- What may follow a time of day: a half of the day or a zone. -/
def timeTail (s : Said) (h m sec nano : Nat) : List Token → Option (Said × List Token)
  | .word w :: rest =>
    match halfDay? h w with
    | some h => do some (← s.withTime h m sec nano, rest)
    | none => do some (← s.withTime h m sec nano, .word w :: rest)
  | .number n 2 (some c) :: .sign ':' :: .number k 2 none :: rest => do
    let s ← s.withTime h m sec nano
    let sign : Int := if c = '-' then -1 else 1
    some ({ s with zone := some (sign * ((n * 3600 + k * 60 : Nat) : Int)) }, rest)
  | .number n d (some c) :: rest => do
    let isUnit := match rest with
      | .word w :: _ => (unitOf? w).isSome
      | _ => false
    let s ← s.withTime h m sec nano
    if isUnit then some (s, .number n d (some c) :: rest)
    else some ({ s with zone := some (offset n d c) }, rest)
  | rest => do some (← s.withTime h m sec nano, rest)

/-- Takes the next item of a phrase. `now` is the year it is. -/
def item (now : Int) (s : Said) : List Token → Option (Said × List Token)
  | [] => none
  | .sign '@' :: .number n _ sign :: .fraction f :: rest =>
    let isBefore := sign = some '-'
    let k := nanos f
    if isBefore && k != 0 then
      some ({ s with epoch := some (-(n : Int) - 1, 1000000000 - k) }, rest)
    else some ({ s with epoch := some (if isBefore then -(n : Int) else n, k) }, rest)
  | .sign '@' :: .number n _ sign :: rest =>
    some ({ s with epoch := some (if sign = some '-' then -(n : Int) else n, 0) }, rest)
  | .number h _ none :: .sign ':' :: .number m _ none :: .sign ':' :: .number sec _ none
      :: .fraction f :: rest => timeTail s h m sec (nanos f) rest
  | .number h _ none :: .sign ':' :: .number m _ none :: .sign ':' :: .number sec _ none :: rest =>
    timeTail s h m sec 0 rest
  | .number h _ none :: .sign ':' :: .number m _ none :: rest => timeTail s h m 0 0 rest
  | .number y yd none :: .number m _ (some '-') :: .number d _ (some '-') :: rest => do
    let s ← s.withDate (Said.fullYear y yd) m d
    -- a letter may stand between the date and the time of day
    some (s, match rest with
      | .word "t" :: rest => rest
      | rest => rest)
  | .number m _ none :: .sign '/' :: .number d _ none :: .sign '/' :: .number y yd none ::
      rest => do
    if 4 ≤ (toString m).length then some (← s.withDate m d y, rest)
    else some (← s.withDate (Said.fullYear y yd) m d, rest)
  | .number m _ none :: .sign '/' :: .number d _ none :: rest => do
    some (← s.withDate now m d, rest)
  | .number d _ none :: .sign '-' :: .word w :: .number y yd (some '-') :: rest => do
    some (← s.withDate (Said.fullYear y yd) (← monthOf? w) d, rest)
  | .number n nd sign :: .word w :: rest => do
    match unitOf? w with
    | some unit => some (s.add (if sign = some '-' then -(n : Int) else n) unit, rest)
    | none =>
      if sign.isSome then none
      else match halfDay? n w with
        | some h => some (← s.withTime h 0 0 0, rest)
        | none =>
          match monthOf? w with
          | some m =>
            match rest with
            | .number y yd none :: .sign ':' :: more =>
              some (← s.withDate now m n, .number y yd none :: .sign ':' :: more)
            | .number y yd none :: rest => some (← s.withDate (Said.fullYear y yd) m n, rest)
            | rest => some (← s.withDate now m n, rest)
          | none => plain s n nd (.word w :: rest)
  | .number n nd none :: rest => plain s n nd rest
  | .word w :: rest =>
    match monthOf? w, rest with
    | some m, .number d _ none :: .number y yd none :: .sign ':' :: more => do
      some (← s.withDate now m d, .number y yd none :: .sign ':' :: more)
    | some m, .number d _ none :: .number y yd none :: rest => do
      some (← s.withDate (Said.fullYear y yd) m d, rest)
    | some m, .number d _ none :: rest => do some (← s.withDate now m d, rest)
    | some _, _ => none
    | none, rest =>
      match weekdayOf? w with
      | some d => if s.weekday.isSome then none else some ({ s with weekday := some (0, d) }, rest)
      | none =>
        match ordinalOf? w, rest with
        | some n, .word u :: rest =>
          match unitOf? u, weekdayOf? u with
          | some unit, _ => some (s.add n unit, rest)
          | none, some d =>
            if s.weekday.isSome then none else some ({ s with weekday := some (n, d) }, rest)
          | none, none => none
        | _, _ =>
          match unitOf? w with
          | some unit => some (s.add 1 unit, rest)
          | none =>
            if w = "now" || w = "today" then some ({ s with isRelative := true }, rest)
            else if w = "yesterday" then some (s.add (-1) (0, 1, 0), rest)
            else if w = "tomorrow" then some (s.add 1 (0, 1, 0), rest)
            else if w = "ago" then
              some ({ s with months := -s.months, days := -s.days, seconds := -s.seconds }, rest)
            else match zoneOf? w with
              | some z =>
                if s.zone.isSome then none
                else match rest with
                  | .number n d (some c) :: rest =>
                    some ({ s with zone := some (z + offset n d c) }, rest)
                  | rest => some ({ s with zone := some z }, rest)
              | none => none
  | _ => none
where
  /-- A number by itself: a date, a time of day or a year, by its digits. -/
  plain (s : Said) (n digits : Nat) (rest : List Token) : Option (Said × List Token) :=
    if digits = 8 then do some (← s.withDate (n / 10000 : Nat) (n / 100 % 100) (n % 100), rest)
    else if digits = 6 then do
      some (← s.withDate (Said.fullYear (n / 10000) 2) (n / 100 % 100) (n % 100), rest)
    else if digits = 4 || digits = 3 then do some (← s.withTime (n / 100) (n % 100) 0 0, rest)
    else if digits ≤ 2 then do some (← s.withTime n 0 0 0, rest)
    else none

def items (now : Int) (fuel : Nat) (s : Said) (ts : List Token) : Option Said :=
  match fuel, ts with
  | 0, _ => none
  | _, [] => some s
  | fuel + 1, ts =>
    match item now s ts with
    | none => none
    | some (s, rest) => items now fuel s rest

end Phrase

namespace Moment

/-- The moment that a phrase names, seen from another one and in its zone. -/
def ofPhrase? (now : Moment) (text : String) : Option Moment := do
  let ts ← Phrase.tokens (text.length + 1) text.toList
  let said ← Phrase.items now.date.1 (ts.length + 1) {} ts
  match said.epoch with
  | some (seconds, nano) =>
    if ts.length ≤ 3 then some { now with seconds := seconds, nano := nano } else none
  | none =>
    let offset := said.zone.getD now.zone.offset
    let here : Moment := { now with zone := { now.zone with offset := offset } }
    let startsDay := said.date.isSome || said.time.isSome || said.weekday.isSome
      || !said.isRelative
    let (y, m, d) := said.date.getD here.date
    let (time, nano) := said.time.getD (if startsDay then (0, 0) else (here.secondOfDay, here.nano))
    let month := (m : Int) - 1 + said.months
    let y := y + month.fdiv 12
    let day := Instant.dayOfDate y (month.fmod 12).toNat.succ 1 + (d : Int) - 1
    let day := match said.weekday with
      | none => day
      | some (n, w) =>
        if said.date.isSome then day
        else
          let weekday := ((day + 4).fmod 7).toNat
          let ahead : Int := ((w + 7 - weekday) % 7 : Nat)
          day + ahead + 7 * (if 0 < n && ahead != 0 then n - 1 else n)
    some { now with
      seconds := (day + said.days) * 86400 + time - offset + said.seconds
      nano := nano }

end Moment

end HostFleet
