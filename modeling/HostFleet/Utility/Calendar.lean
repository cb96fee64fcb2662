import HostFleet.Instant.Phrase
import HostFleet.Machine.Entries
import HostFleet.Utility.Options

/-!
# The calendar

`date` tells the time, or another time that is described to it, in the way that is wanted.
-/

namespace HostFleet.Utility

open Machine

/-- A time of the machine, in microseconds since it began, as a moment. -/
def momentOf (zone : Zone) (time : Int) : Moment :=
  { seconds := clockStart + time.fdiv 1000000
    nano := (time.fmod 1000000).toNat * 1000
    zone := zone }

/-- A moment in microseconds since the machine began. -/
def timeOf (m : Moment) : Int := (m.seconds - clockStart) * 1000000 + (m.nano / 1000 : Nat)

def Call.zone (c : Call) : Zone := ((c.vars.lookup "TZ").map Zone.ofText).getD {}

/-- The moment that it is. -/
def Call.moment (c : Call) : Program Moment := do
  pure (momentOf c.zone ((← Program.now : Nat) : Int))

def dateOptions : Options where
  short := "d:f:I::r:Rs:u"
  long := [("date", .required, "d"), ("debug", .none, "debug"), ("file", .required, "f"),
    ("iso-8601", .optional, "I"), ("reference", .required, "r"),
    ("resolution", .none, "resolution"), ("rfc-822", .none, "R"), ("rfc-2822", .none, "R"),
    ("rfc-email", .none, "R"),
    ("rfc-3339", .required, "rfc-3339"), ("set", .required, "s"), ("uct", .none, "u"),
    ("utc", .none, "u"), ("universal", .none, "u")]

/-- The template for an exact time, by a word that tells how exact it is. -/
def exactTemplate? (between zone : String) (word : String) : Option String :=
  let parts := [("hours", "%H"), ("minutes", "%H:%M"), ("date", ""), ("seconds", "%H:%M:%S"),
    ("ns", "%H:%M:%S,%N")]
  match if word.isEmpty then some ("date", "") else parts.find? fun q => q.1.startsWith word with
  | some (_, "") => some "%Y-%m-%d"
  | some (_, text) => some ("%Y-%m-%d" ++ between ++ text ++ zone)
  | none => none

/-- The template that options ask for. -/
def dateTemplates (c : Call) (p : Parsed) : Program (List String) :=
  p.options.filterMapM fun (key, value) => match key with
    | "I" =>
      match exactTemplate? "T" "%:z" value with
      | some t => pure (some t)
      | none => c.wrongChoice "--iso-8601" value
          [["hours"], ["minutes"], ["date"], ["seconds"], ["ns"]] 1
    | "rfc-3339" =>
      match if value.startsWith "h" || value.startsWith "m" then none
        else exactTemplate? " " "%:z" value with
      | some t => pure (some (t.replace "," "."))
      | none => c.wrongChoice "--rfc-3339" value [["date"], ["seconds"], ["ns"]] 1
    | "R" => pure (some "%a, %d %b %Y %H:%M:%S %z")
    | _ => pure none

def date : Utility := fun c => do
  let p ← dateOptions.of c 1
  let templates ← dateTemplates c p
  if 1 < templates.length then c.fail "multiple output formats specified" 1
  let sources := ["d", "f", "r"].filter p.has
  if 1 < sources.length then
    c.misuse "the options to specify dates for printing are mutually exclusive" 1
  let given ← match p.operands with
    | [] => pure none
    | _ :: extra :: _ => c.misuse ("extra operand " ++ inQuotes extra) 1
    | [text] =>
      if text.startsWith "+" then
        if templates.isEmpty then pure (some (dropFront 1 text))
        else c.fail "multiple output formats specified" 1
      else if !sources.isEmpty then
        c.misuse ("the argument " ++ inQuotes text ++ " lacks a leading '+';\n"
          ++ "when using an option to specify date(s), any non-option\n"
          ++ "argument must be a format string beginning with '+'") 1
      else if !text.isEmpty && text.all Char.isDigit && [8, 10, 12].contains text.length then do
        c.warn "cannot set date: Operation not permitted"
        pure none
      else c.fail ("invalid date " ++ inQuotes text) 1
  let zone : Zone := if p.has "u" then {} else c.zone
  let now : Moment := { (← c.moment) with zone := zone }
  let template := (given.or templates.head?).getD "%a %b %e %H:%M:%S %Z %Y"
  let show' (m : Moment) : Program Unit := c.put (m.format template ++ "\n")
  let read (text : String) : Program Bool := do
    match now.ofPhrase? text with
    | some m => do
      show' m
      pure true
    | none => do
      c.warn ("invalid date " ++ inQuotes text)
      pure false
  let fine ← match p.value? "d", p.value? "r", p.value? "f" with
    | some text, _, _ => read text
    | none, some path, _ => do
      match ← Program.lookup true path with
      | .error e => c.fail (nameText path ++ ": " ++ e.reason) 1
      | .ok (place, _) => do
        let files ← Program.files
        show' { momentOf zone (files.time place) with zone := zone }
        pure true
    | none, none, some name => do
      match ← Call.slurp name with
      | .error e => c.fail (nameText name ++ ": " ++ e.reason) 1
      | .ok text => do
        let lines := if text.endsWith "\n" then (text.splitOn "\n").dropLast else text.splitOn "\n"
        let results ← lines.mapM read
        pure (results.all id)
    | none, none, none =>
      match p.value? "s" with
      | some text =>
        match now.ofPhrase? text with
        | some m => do
          c.warn "cannot set date: Operation not permitted"
          show' m
          pure false
        | none => c.fail ("invalid date " ++ inQuotes text) 1
      | none => do
        show' now
        pure true
  pure (if fine then 0 else 1)

end HostFleet.Utility
