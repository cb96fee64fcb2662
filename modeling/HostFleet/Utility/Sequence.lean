import HostFleet.Utility.Format
import HostFleet.Utility.Options
import HostFleet.Utility.Tally

/-!
# Sequences

`seq` counts from one number to another, `yes` repeats a line, and `factor` takes numbers apart.
-/

namespace HostFleet.Utility

open Machine

/-! ## Counting -/

namespace Sequence

/-- A number in decimals as it was given: `value * 10 ^ -places`. -/
structure Given where
  value : Int
  places : Nat := 0
  /-- How many places it was written with, and how wide that is. -/
  shown : Nat := 0
  width : Nat := 0
  isInfinite : Bool := false
  deriving Inhabited

inductive Reading where
  | number (g : Given)
  | notNumber
  | wrong

/-- The number of a text. -/
def read (text : String) : Reading :=
  let cs := text.toList.dropWhile Format.isSpace
  let (negative, body) := match cs with
    | '-' :: rest => (true, rest)
    | '+' :: rest => (false, rest)
    | cs => (false, cs)
  let sign (n : Nat) : Int := if negative then -(n : Int) else n
  let word := String.ofList (body.map Char.toLower)
  let value (ds : List Char) : Nat := ds.foldl (fun n d => n * 10 + (d.toNat - 48)) 0
  if word = "inf" || word = "infinity" then .number { value := sign 1, isInfinite := true }
  else if word.startsWith "nan" then .notNumber
  else match body with
    | '0' :: x :: ds =>
      if (x = 'x' || x = 'X') && !ds.isEmpty && ds.all Format.isHex then
        .number { value := sign (Format.valueOf 16 ds), width := cs.length }
      else decimal cs.length sign value body
    | body => decimal cs.length sign value body
where
  decimal (length : Nat) (sign : Nat → Int) (value : List Char → Nat) (body : List Char) :
      Reading :=
    let whole := body.takeWhile Char.isDigit
    let rest := body.drop whole.length
    let (hasPoint, places, rest) := match rest with
      | '.' :: rest => (true, rest.takeWhile Char.isDigit, rest.dropWhile Char.isDigit)
      | rest => (false, [], rest)
    if whole.isEmpty && places.isEmpty then .wrong
    else
      let n := value (whole ++ places)
      let width := length - (if hasPoint && places.isEmpty then 1 else 0)
        + (if whole.isEmpty then 1 else 0)
      let exponent : Option Int := match rest with
        | [] => some 0
        | e :: ds =>
          if e != 'e' && e != 'E' then none
          else
            let (minus, ds) := match ds with
              | '-' :: ds => (true, ds)
              | '+' :: ds => (false, ds)
              | ds => (false, ds)
            if ds.isEmpty || !ds.all Char.isDigit || 4 < ds.length then none
            else some (if minus then -(value ds : Int) else value ds)
      match exponent with
      | none => .wrong
      | some e =>
        let shown := ((places.length : Int) - e).toNat
        let width := if rest.isEmpty then width else whole.length + e.toNat + shown + 1
        let scale := (places.length : Int) - e
        .number {
          value := sign (if scale < 0 then n * Nat.pow 10 (-scale).toNat else n)
          places := scale.toNat, shown := shown, width := width }

/-- The number in units of so many places. -/
def Given.scaled (g : Given) (places : Nat) : Int := g.value * Int.pow 10 (places - g.places)

/-- A number of units as text with a fixed number of places. -/
def text (places shown : Nat) (n : Int) : String :=
  let size := n.natAbs * Nat.pow 10 (shown - places) / Nat.pow 10 (places - shown)
  let digits := toString size
  let digits := "".pushn '0' (shown + 1 - digits.length) ++ digits
  let whole := digits.length - shown
  (if n < 0 then "-" else "") ++ String.ofList (digits.toList.take whole)
    ++ (if shown = 0 then "" else "." ++ String.ofList (digits.toList.drop whole))

/-- A text filled with zeros behind its sign. -/
def filled (width : Nat) (s : String) : String :=
  let zeros := "".pushn '0' (width - s.length)
  match s.toList with
  | '-' :: ds => "-" ++ zeros ++ String.ofList ds
  | _ => zeros ++ s

/-- What stands around the one conversion of a format. -/
structure Layout where
  front : List Char
  spec : Format.Spec
  conversion : Char
  back : List Char

/-- The text of a format with its doubled signs undone, up to a conversion. -/
def plainPart : List Char → List Char × List Char
  | [] => ([], [])
  | '%' :: '%' :: rest =>
    let (front, rest) := plainPart rest
    ('%' :: front, rest)
  | '%' :: rest => ([], '%' :: rest)
  | c :: rest =>
    let (front, rest) := plainPart rest
    (c :: front, rest)

def layout? (format : String) : Except String Layout :=
  let name := "format " ++ inQuotes format
  match plainPart format.toList with
  | (_, []) => .error (name ++ " has no % directive")
  | (front, _ :: rest) =>
    let marks := rest.takeWhile fun c => "-+#0 '".toList.contains c
    let (s, _) := Format.flags {} (marks.filter (· != '\x27'))
    let rest := rest.drop marks.length
    let width := rest.takeWhile Char.isDigit
    let rest := rest.drop width.length
    let (precision, rest) := match rest with
      | '.' :: rest => (some (Format.valueOf 10 (rest.takeWhile Char.isDigit)),
          rest.dropWhile Char.isDigit)
      | rest => (none, rest)
    let rest := if rest.head? = some 'L' then rest.tail else rest
    match rest with
    | [] => .error (name ++ " ends in %")
    | c :: rest =>
      if !("efgaEFGA".toList.contains c) then
        .error (name ++ " has unknown %" ++ String.singleton c ++ " directive")
      else match plainPart rest with
        | (back, []) =>
          .ok ⟨front, { s with width := Format.valueOf 10 width, precision := precision }, c, back⟩
        | _ => .error (name ++ " has too many % directives")

def Layout.text (l : Layout) (places : Nat) (n : Int) : String :=
  let x := Floating.ofRatio Floating.extended (n < 0) n.natAbs (Nat.pow 10 places)
  String.ofList (l.front ++ l.spec.floating l.conversion 4 x ++ l.back)

/-- How many numbers are written at a time. -/
def blockLength : Nat := 1000

/-- Writes the numbers with what separates them. -/
def write (c : Call) (show' : Int → String) (separator : String) (step : Int)
    (isOver : Int → Bool) (fuel : Nat) (next : Int) (isFirst : Bool) : Program Unit :=
  match fuel with
  | 0 => pure ()
  | fuel + 1 =>
    let numbers := ((List.range blockLength).map fun (i : Nat) => next + step * i).takeWhile
      fun n => !isOver n
    if numbers.isEmpty then if isFirst then pure () else c.put "\n"
    else do
      c.put ((if isFirst then "" else separator) ++ separator.intercalate (numbers.map show'))
      write c show' separator step isOver fuel (next + step * (blockLength : Int)) false

def options : Options where
  short := "f:s:w"
  long := [("equal-width", .none, "w"), ("format", .required, "f"),
    ("separator", .required, "s")]
  anywhere := false

/-- The options in front of the first number, even if it is negative. -/
def splitArgs : List String → List String × List String
  | [] => ([], [])
  | arg :: rest =>
    match arg.toList with
    | '-' :: c :: _ =>
      if c.isDigit || c = '.' then ([], arg :: rest)
      else if arg = "-f" || arg = "-s" then
        match rest with
        | value :: rest =>
          let (front, back) := splitArgs rest
          (arg :: value :: front, back)
        | [] => ([arg], [])
      else
        let (front, back) := splitArgs rest
        (arg :: front, back)
    | _ => ([], arg :: rest)

end Sequence

def seq : Utility := fun c => do
  let (front, back) := Sequence.splitArgs c.args
  let p ← Sequence.options.of { c with args := front } 1
  let operands := p.operands ++ back
  let read (text : String) : Program Sequence.Given :=
    match Sequence.read text with
    | .number g => pure g
    | .notNumber => c.misuse ("invalid 'not-a-number' argument: " ++ inQuotes text) 1
    | .wrong => c.misuse ("invalid floating point argument: " ++ inQuotes text) 1
  match operands with
  | [] => c.misuse "missing operand" 1
  | _ :: _ :: _ :: extra :: _ => c.misuse ("extra operand " ++ inQuotes extra) 1
  | _ => pure ()
  let layout ← match p.value? "f" with
    | none => pure none
    | some format =>
      match Sequence.layout? format with
      | .ok l => pure (some l)
      | .error e => c.fail e 1
  if layout.isSome && p.has "w" then
    c.misuse "format string may not be specified when printing equal width strings" 1
  let one : Sequence.Given := { value := 1, width := 1 }
  let (first, step, last) ← match operands with
    | [c] => do pure (one, one, ← read c)
    | [a, c] => do pure (← read a, one, ← read c)
    | [a, b, c] => do pure (← read a, ← read b, ← read c)
    | _ => pure (one, one, one)
  if step.value = 0 then
    c.misuse ("invalid Zero increment value: " ++ inQuotes (operands[1]?.getD "")) 1
  let places := max first.places (max step.places last.places)
  let shown := max first.shown step.shown
  let start := first.scaled places
  let stop := last.scaled places
  let isOver (n : Int) : Bool :=
    if last.isInfinite then (0 < last.value) != (0 < step.value)
    else if 0 < step.value then stop < n else n < stop
  let widthOf (g : Sequence.Given) : Nat :=
    g.width + shown - g.shown + (if 0 < shown && g.shown = 0 then 1 else 0)
      - (if shown = 0 && 0 < g.shown then g.shown + 1 else 0)
  let width := if p.has "w" then max (widthOf first) (widthOf last) else 0
  let show' (n : Int) : String := match layout with
    | some l => l.text places n
    | none => Sequence.filled width (Sequence.text places shown n)
  Sequence.write c show' ((p.value? "s").getD "\n") (step.scaled places) isOver Program.plenty
    start true
  pure 0

/-! ## Repeating -/

def yes : Utility := fun c => do
  let args ← match c.args with
    | [] => pure ["y"]
    | "--" :: rest => pure (if rest.isEmpty then ["y"] else rest)
    | arg :: rest => do
      if arg.startsWith "-" && 1 < arg.length then
        discard (({ short := "", anywhere := false } : Options).of c 1)
      pure (arg :: rest)
  let line := " ".intercalate args ++ "\n"
  let block := String.join (List.replicate (8192 / line.length + 1) line)
  let rec go : Nat → Program Nat
    | 0 => pure 0
    | n + 1 => do
      c.put block
      go n
  go Program.plenty

/-! ## Factors -/

/-- The prime factors of a number from a possible one on, as far as the fuel allows. -/
def primeFactors (fuel n d : Nat) : List Nat :=
  match fuel with
  | 0 => [n]
  | fuel + 1 =>
    if n ≤ 1 then []
    else if n < d * d then [n]
    else if n % d = 0 then d :: primeFactors fuel (n / d) d
    else primeFactors fuel n (if d = 2 then 3 else d + 2)

def factor : Utility := fun c => do
  let options : Options := { short := "h", long := [("exponents", .none, "h")] }
  let p ← options.of c 1
  let words ← if p.operands.isEmpty then do
      match ← Program.readAll 0 Program.plenty [] with
      | .ok text => pure ((text.map fun c => if isSpace c then ' ' else c).splitOn " " |>.filter
          (· != ""))
      | .error _ => pure []
    else pure p.operands
  let mut fine := true
  for word in words do
    let digits := String.ofList (word.toList.dropWhile fun c => c = ' ' || c = '+')
    match natural? digits with
    | none => do
      c.warn (inQuotes word ++ " is not a valid positive integer")
      fine := false
    | some n =>
      let factors := primeFactors (Nat.pow 2 22) n 2
      let texts := if p.has "h" then
          (factors.eraseDups.map fun f =>
            let count := (factors.filter (· = f)).length
            if count = 1 then toString f else s!"{f}^{count}")
        else factors.map toString
      c.put (s!"{n}:" ++ String.join (texts.map (" " ++ ·)) ++ "\n")
  pure (if fine then 0 else 1)

end HostFleet.Utility
