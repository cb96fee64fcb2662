import HostFleet.Instant.Basic

/-!
# Times by template

A moment in a time zone, and texts about it by a template in which letters behind percent signs
stand for its parts.
-/

namespace HostFleet

/-- A time zone without summer time: its name and how many seconds it is ahead of UTC. -/
structure Zone where
  name : String := "UTC"
  offset : Int := 0
  deriving DecidableEq, Repr, Inhabited

namespace Zone

/-- A zone as a variable describes it: a name and how many hours it is behind UTC. -/
def ofText (text : String) : Zone :=
  let cs := text.toList
  let name := cs.takeWhile Char.isAlpha
  let sign : Int := if (cs.drop name.length).head? = some '-' then 1 else -1
  let rest := (cs.drop name.length).dropWhile fun c => c = '+' || c = '-'
  let parts := (String.ofList (rest.takeWhile fun c => c.isDigit || c = ':')).splitOn ":"
  let value (i : Nat) : Int := ((parts[i]?.bind String.toNat?).map Int.ofNat).getD 0
  if name.length < 3 then {}
  else if rest.isEmpty then { name := String.ofList name }
  else { name := String.ofList name, offset := sign * (value 0 * 3600 + value 1 * 60 + value 2) }

end Zone

/-- A point in time, in seconds since the beginning of 1970, with a fraction and a zone. -/
structure Moment where
  seconds : Int
  nano : Nat := 0
  zone : Zone := {}
  deriving DecidableEq, Repr, Inhabited

namespace Moment

variable (m : Moment)

/-- The day in the zone, counted from the beginning of 1970. -/
def day : Int := (m.seconds + m.zone.offset).fdiv 86400

/-- Seconds since midnight in the zone. -/
def secondOfDay : Nat := ((m.seconds + m.zone.offset).fmod 86400).toNat

def hour : Nat := m.secondOfDay / 3600

def minute : Nat := m.secondOfDay / 60 % 60

def second : Nat := m.secondOfDay % 60

def date : Int × Nat × Nat := Instant.dateOfDay m.day

/-- The day of the week; Sunday is 0. -/
def weekday : Nat := ((m.day + 4).fmod 7).toNat

/-- How many days of the year are over. -/
def dayOfYear : Nat := (m.day - Instant.dayOfDate m.date.1 1 1).toNat

/-- The year and week to which the Thursday of the week belongs. -/
def week : Int × Nat :=
  let thursday := m.day - ((m.weekday + 6) % 7 : Nat) + 3
  let (year, _, _) := Instant.dateOfDay thursday
  (year, ((thursday - Instant.dayOfDate year 1 1) / 7).toNat + 1)

def weekdayNames : List String :=
  ["Sunday", "Monday", "Tuesday", "Wednesday", "Thursday", "Friday", "Saturday"]

def monthNames : List String :=
  ["January", "February", "March", "April", "May", "June", "July", "August", "September",
    "October", "November", "December"]

/-- The distance from UTC in hours and minutes, with so many colons inside. -/
def offsetText (colons : Nat) : String :=
  let n := m.zone.offset.natAbs
  let two (k : Nat) : String := if k < 10 then "0" ++ toString k else toString k
  let sign := if m.zone.offset < 0 then "-" else "+"
  let h := two (n / 3600)
  let minutes := two (n / 60 % 60)
  match colons with
  | 0 => sign ++ h ++ minutes
  | 1 => sign ++ h ++ ":" ++ minutes
  | 2 => sign ++ h ++ ":" ++ minutes ++ ":" ++ two (n % 60)
  | _ => if n % 3600 = 0 then sign ++ h else sign ++ h ++ ":" ++ minutes

/-- How a part is written: what fills it up, to what width, and in what case. -/
structure Style where
  /-- What fills the part up, if it is not the usual character. -/
  fill : Option Char := none
  width : Option Nat := none
  isUpper : Bool := false
  isSwapped : Bool := false
  colons : Nat := 0

/-- A text filled up in front. -/
def Style.text (st : Style) (s : String) : String :=
  let s := if st.isUpper then s.map Char.toUpper else s
  match st.width with
  | some w => "".pushn (if st.fill = some '0' then '0' else ' ') (w - s.length) ++ s
  | none => s

/-- A number filled up to its usual width. -/
def Style.number (st : Style) (usual : Char) (digits : Nat) (n : Int) : String :=
  let fill := st.fill.getD usual
  let body := toString n.natAbs
  let sign := if n < 0 then "-" else ""
  if fill = '-' then sign ++ body
  else
    let width := st.width.getD digits
    let pad := "".pushn fill (width - sign.length - body.length)
    if fill = '0' then sign ++ pad ++ body else pad ++ sign ++ body

/-- The part for a letter, or nothing if the letter stands for none. -/
def part? (template : List Char → String) (st : Style) (letter : Char) : Option String :=
  let (year, month, dayOfMonth) := m.date
  let hour12 := if m.hour % 12 = 0 then 12 else m.hour % 12
  let name (names : List String) (i : Nat) : String := (names[i]?).getD "?"
  let short (s : String) : String := String.ofList (s.toList.take 3)
  let word (s : String) : String :=
    st.text (if st.isSwapped then s.map Char.toUpper else s)
  let two (n : Nat) : String := st.number '0' 2 n
  match letter with
  | '%' => some (st.text "%")
  | 'n' => some (st.text "\n")
  | 't' => some (st.text "\t")
  | 'a' => some (word (short (name weekdayNames m.weekday)))
  | 'A' => some (word (name weekdayNames m.weekday))
  | 'b' => some (word (short (name monthNames (month - 1))))
  | 'h' => some (word (short (name monthNames (month - 1))))
  | 'B' => some (word (name monthNames (month - 1)))
  | 'c' => some (st.text (template "%a %b %e %H:%M:%S %Y".toList))
  | 'C' => some (st.number '0' 2 (year / 100))
  | 'd' => some (two dayOfMonth)
  | 'D' => some (st.text (template "%m/%d/%y".toList))
  | 'e' => some (st.number ' ' 2 dayOfMonth)
  | 'F' => some (st.text (template "%Y-%m-%d".toList))
  | 'g' => some (st.number '0' 2 (m.week.1 % 100))
  | 'G' => some (st.number '0' 4 m.week.1)
  | 'H' => some (two m.hour)
  | 'I' => some (two hour12)
  | 'j' => some (st.number '0' 3 (m.dayOfYear + 1 : Nat))
  | 'k' => some (st.number ' ' 2 m.hour)
  | 'l' => some (st.number ' ' 2 hour12)
  | 'm' => some (two month)
  | 'M' => some (two m.minute)
  | 'N' =>
    let digits := toString m.nano
    let nine := "".pushn '0' (9 - digits.length) ++ digits
    some (match st.width with
      | some w => String.ofList ((nine.toList.take w) ++ List.replicate (w - 9) '0')
      | none => if st.fill = some '-' then toString m.nano else nine)
  | 'p' => some (st.text (let s := if m.hour < 12 then "AM" else "PM"
      if st.isSwapped then s.map Char.toLower else s))
  | 'P' => some (st.text (if m.hour < 12 then "am" else "pm"))
  | 'q' => some (st.number '0' 1 ((month - 1) / 3 + 1 : Nat))
  | 'r' => some (st.text (template "%I:%M:%S %p".toList))
  | 'R' => some (st.text (template "%H:%M".toList))
  | 's' => some (st.number '0' 1 m.seconds)
  | 'S' => some (two m.second)
  | 'T' => some (st.text (template "%H:%M:%S".toList))
  | 'u' => some (st.number '0' 1 (if m.weekday = 0 then 7 else m.weekday : Nat))
  | 'U' => some (two ((m.dayOfYear + 7 - m.weekday) / 7))
  | 'V' => some (two m.week.2)
  | 'w' => some (st.number '0' 1 m.weekday)
  | 'W' => some (two ((m.dayOfYear + 7 - (m.weekday + 6) % 7) / 7))
  | 'x' => some (st.text (template "%m/%d/%y".toList))
  | 'X' => some (st.text (template "%H:%M:%S".toList))
  | 'y' => some (st.number '0' 2 (year % 100))
  | 'Y' => some (st.number '0' 4 year)
  | 'z' => some (st.text (m.offsetText st.colons))
  | 'Z' => some (st.text (if st.isSwapped then m.zone.name.map Char.toLower else m.zone.name))
  | _ => none

/-- The style in front of a letter, and what follows. -/
def style (st : Style) : List Char → Style × List Char
  | c :: rest =>
    if c = '_' then style { st with fill := some ' ' } rest
    else if c = '-' || c = '0' then style { st with fill := some c } rest
    else if c = '+' then style st rest
    else if c = '^' then style { st with isUpper := true } rest
    else if c = '#' then style { st with isSwapped := true } rest
    else
      let ds := (c :: rest).takeWhile Char.isDigit
      let rest := (c :: rest).drop ds.length
      let colons := (rest.takeWhile (· = ':')).length
      let rest := (rest.drop colons).dropWhile fun c => c = 'E' || c = 'O'
      ({ st with
          width := if ds.isEmpty then none
            else some (ds.foldl (fun n c => n * 10 + (c.toNat - 48)) 0)
          colons := colons }, rest)
  | [] => (st, [])

/-- The text that a template gives. Templates that stand for others go no deeper than `fuel`. -/
def fill (fuel : Nat) (cs : List Char) : String :=
  match fuel, cs with
  | 0, _ => ""
  | _, [] => ""
  | fuel + 1, '%' :: rest =>
    let (st, after) := style {} rest
    match after with
    | [] => String.ofList ('%' :: rest)
    | letter :: after =>
      match m.part? (fun template => fill fuel template) st letter with
      | some text => text ++ fill fuel after
      | none =>
        let taken := rest.length - after.length
        String.ofList ('%' :: rest.take taken) ++ fill fuel after
  | fuel + 1, c :: rest => String.singleton c ++ fill fuel rest

/-- The text that a template gives. -/
def format (template : String) : String := m.fill (template.length + 30) template.toList

end Moment

end HostFleet
