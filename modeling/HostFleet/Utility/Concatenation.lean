import HostFleet.Text.Regex
import HostFleet.Utility.Options
import HostFleet.Utility.Stream

/-!
# Files one after the other

`cat`, which can also show what cannot be seen, `tac`, `rev`, `nl` and `tee`.
-/

namespace HostFleet.Utility

open Machine

/-! ## Showing files -/

/-- What is shown of a file besides what stands in it. -/
structure Showing where
  numbers : Bool
  /-- Whether only lines that are not empty have numbers. -/
  onlyFilled : Bool
  squeezes : Bool
  ends : Bool
  tabs : Bool
  marks : Bool

namespace Showing

def isPlain (s : Showing) : Bool :=
  !(s.numbers || s.onlyFilled || s.squeezes || s.ends || s.tabs || s.marks)

/-- A character that cannot be seen, by signs that can. -/
def marked (c : Char) : List Char :=
  let low (n : Nat) : List Char :=
    if n < 32 then ['^', Char.ofNat (n + 64)]
    else if n = 127 then ['^', '?'] else [Char.ofNat n]
  if 128 ≤ c.toNat then 'M' :: '-' :: low (c.toNat - 128) else low c.toNat

/-- Where the output stands. -/
structure Position where
  line : Nat := 0
  isStart : Bool := true
  blanks : Nat := 0
  /-- Whether a carriage return is held back that may belong to the end of the line. -/
  holdsReturn : Bool := false

def numberText (p : Position) : List Char × Position :=
  ((padLeft 6 (toString (p.line + 1)) ++ "\t").toList, { p with line := p.line + 1 })

/-- What is written for a character. -/
def step (s : Showing) (p : Position) (c : Char) : List Char × Position :=
  if c = '\n' then
    if p.isStart && !p.holdsReturn then
      if s.squeezes && 0 < p.blanks then ([], p)
      else
        let (front, p) := if s.numbers && !s.onlyFilled then numberText p else ([], p)
        (front ++ (if s.ends then ['$', '\n'] else ['\n']), { p with blanks := p.blanks + 1 })
    else
      let held := if p.holdsReturn then ['^', 'M'] else []
      (held ++ (if s.ends then ['$', '\n'] else ['\n']),
        { p with isStart := true, blanks := 0, holdsReturn := false })
  else
    let (front, p) := if p.isStart && (s.numbers || s.onlyFilled) then numberText p else ([], p)
    let held := if p.holdsReturn then ['\r'] else []
    let p := { p with isStart := false, blanks := 0, holdsReturn := false }
    if c = '\r' && s.ends && !s.marks then (front ++ held, { p with holdsReturn := true })
    else if c = '\t' then (front ++ held ++ (if s.tabs then ['^', 'I'] else [c]), p)
    else (front ++ held ++ (if s.marks then marked c else [c]), p)

def apply (s : Showing) (p : Position) (text : String) : String × Position :=
  let (pieces, p) := text.toList.foldl (fun (pieces, p) c =>
    let (cs, p) := s.step p c
    (cs :: pieces, p)) (([] : List (List Char)), p)
  (String.ofList pieces.reverse.flatten, p)

end Showing

/-- Whether a descriptor leads to the same file as the standard output, and not to its end. -/
def isOutput (fd : Nat) : Program Bool :=
  Program.look fun pid k =>
    match k.stream? pid fd, k.stream? pid 1 with
    | some (.file a _ _ _), some (.file b _ _ _) =>
      let offset := ((k.opens[((k.descriptors pid).lookup fd).getD 0]?).map (·.offset)).getD 0
      a == b && offset < (k.fileText a).length
    | _, _ => false

def catOptions : Options where
  short := "benstuvAET"
  long := [("number-nonblank", .none, "b"), ("number", .none, "n"), ("squeeze-blank", .none, "s"),
    ("show-nonprinting", .none, "v"), ("show-ends", .none, "E"), ("show-tabs", .none, "T"),
    ("show-all", .none, "A")]

def cat : Utility := fun c => do
  let p ← catOptions.of c 1
  let any (keys : List String) : Bool := keys.any p.has
  let showing : Showing :=
    { numbers := p.has "n", onlyFilled := p.has "b", squeezes := p.has "s"
      ends := any ["E", "A", "e"], tabs := any ["T", "A", "t"], marks := any ["v", "A", "e", "t"] }
  let mut at' : Showing.Position := {}
  let mut fine := true
  for name in if p.operands.isEmpty then ["-"] else p.operands do
    let opened ← if name = "-" then pure (.ok 0) else Program.openPath name { read := true }
    match opened with
    | .error e => do
      c.warn (nameText name ++ ": " ++ e.reason)
      fine := false
    | .ok fd => do
      if ← isOutput fd then do
        c.warn (nameText name ++ ": input file is output file")
        fine := false
      else
        let result ← eachPiece fd Program.plenty (fun at' text => do
          if showing.isPlain then c.put text
          else c.put (showing.apply at' text).1
          pure ((showing.apply at' (if showing.isPlain then "" else text)).2, true)) at'
        match result with
        | .ok p => at' := p
        | .error e => do
          c.warn (nameText name ++ ": " ++ e.reason)
          fine := false
      if fd != 0 then Program.close fd
  if at'.holdsReturn then c.put "\r"
  pure (if fine then 0 else 1)

/-! ## Backwards -/

/-- The pieces of a text around what separates them, each with what follows it. -/
def cutBehind (text : Array Char) (from' : Nat) : List (Nat × Nat) → List String
  | [] => [String.ofList (text.extract from' text.size).toList]
  | (_, stop) :: rest => String.ofList (text.extract from' stop).toList :: cutBehind text stop rest

/-- The pieces of a text around what separates them, each with what stands before it. -/
def cutBefore (text : Array Char) (from' : Nat) : List (Nat × Nat) → List String
  | [] => [String.ofList (text.extract from' text.size).toList]
  | (start, _) :: rest =>
    String.ofList (text.extract from' start).toList :: cutBefore text start rest

/-- Where a text stands in another. -/
def places (text part : Array Char) (fuel i : Nat) : List (Nat × Nat) :=
  match fuel with
  | 0 => []
  | fuel + 1 =>
    if text.size < i + part.size then []
    else if text.extract i (i + part.size) == part then
      (i, i + part.size) :: places text part fuel (i + part.size)
    else places text part fuel (i + 1)

def tacOptions : Options where
  short := "brs:"
  long := [("before", .none, "b"), ("regex", .none, "r"), ("separator", .required, "s")]

def tac : Utility := fun c => do
  let p ← tacOptions.of c 1
  let separator := (p.value? "s").getD "\n"
  let regex ← if !p.has "r" then pure none
    else match Regex.read Regex.basic separator with
      | .ok (r, _) => pure (some r)
      | .error e => c.fail e.message 1
  let separator := (if separator.isEmpty then "\x00" else separator).toList.toArray
  let (_, fine) ← c.eachFile p.operands
    (fun name isOpen => if isOpen then nameText name ++ ": read error"
      else "failed to open " ++ inQuotes name ++ " for reading")
    (fun () _ text => do
      let text := text.toList.toArray
      let found := match regex with
        | some r => (r.allMatches {} text (text.size + 1) 0 none).map fun m => (m.start, m.stop)
        | none => places text separator (text.size + 1) 0
      let pieces := if p.has "b" then cutBefore text 0 found else cutBehind text 0 found
      c.put (String.join pieces.reverse)) ()
  pure (if fine then 0 else 1)

def rev : Utility := fun c => do
  let p ← ({ short := "0", long := [("zero", .none, "0")] } : Options).of c 1
  let stop := if p.has "0" then '\x00' else '\n'
  let (_, fine) ← c.eachFile p.operands (fun name _ => "cannot open " ++ name)
    (fun () _ text => c.put (String.join ((Line.ofText stop text).map fun line =>
      { line with text := String.ofList line.text.toList.reverse }.whole stop))) ()
  pure (if fine then 0 else 1)

/-! ## Numbers in front of lines -/

/-- Which lines have numbers. -/
inductive Numbering where
  | all
  | filled
  | none
  | matching (r : Regex)

def Numbering.accepts (n : Numbering) (line : String) : Bool :=
  match n with
  | .all => true
  | .filled => !line.isEmpty
  | .none => false
  | .matching r => r.isMatch {} line

/-- How lines are numbered. -/
structure NumberStyle where
  head : Numbering := .none
  body : Numbering := .filled
  foot : Numbering := .none
  width : Nat := 6
  align : String := "rn"
  separator : String := "\t"
  first : Int := 1
  step : Int := 1
  /-- How many empty lines count as one. -/
  join : Nat := 1
  delimiter : String := "\x5c:"
  goesOn : Bool := false

/-- Where the numbering stands: in which part of a page, at which number, after how many empty
lines. -/
structure NumberState where
  pagePart : Nat := 1
  number : Int
  blanks : Nat := 0

def NumberStyle.text (st : NumberStyle) (n : Int) : String :=
  let digits := toString n.natAbs
  let sign := if n < 0 then "-" else ""
  if st.align = "ln" then padRight st.width (sign ++ digits)
  else if st.align = "rz" then
    sign ++ "".pushn '0' (st.width - sign.length - digits.length) ++ digits
  else padLeft st.width (sign ++ digits)

def NumberStyle.line (st : NumberStyle) (s : NumberState) (line : String) :
    String × NumberState :=
  let d := st.delimiter
  let mark : Option Nat := if d.isEmpty then none
    else if line = d ++ d ++ d then some 0
    else if line = d ++ d then some 1
    else if line = d then some 2 else none
  match mark with
  | some n => ("\n", { s with
      pagePart := n
      number := if st.goesOn then s.number else st.first
      blanks := 0 })
  | none =>
    let kind := if s.pagePart = 0 then st.head else if s.pagePart = 1 then st.body else st.foot
    let blanks := if line.isEmpty then s.blanks + 1 else 0
    let counts := match kind with
      | .all => !line.isEmpty || st.join ≤ 1 || blanks = st.join
      | kind => kind.accepts line
    let blanks := if blanks = st.join then 0 else blanks
    if counts then
      (st.text s.number ++ st.separator ++ line ++ "\n",
        { s with number := s.number + st.step, blanks := blanks })
    else
      ("".pushn ' ' (st.width + st.separator.length) ++ line ++ "\n", { s with blanks := blanks })

def nlOptions : Options where
  short := "h:b:f:v:i:pl:s:w:n:d:"
  long := [("header-numbering", .required, "h"), ("body-numbering", .required, "b"),
    ("footer-numbering", .required, "f"), ("starting-line-number", .required, "v"),
    ("line-increment", .required, "i"), ("no-renumber", .none, "p"),
    ("join-blank-lines", .required, "l"), ("number-separator", .required, "s"),
    ("number-width", .required, "w"), ("number-format", .required, "n"),
    ("section-delimiter", .required, "d")]

/-- A number with a sign, in decimal digits. -/
def integer? (s : String) : Option Int :=
  match s.toList with
  | '-' :: cs => (natural? (String.ofList cs)).map fun n => -(n : Int)
  | '+' :: cs => (natural? (String.ofList cs)).map fun n => (n : Int)
  | _ => (natural? s).map fun n => (n : Int)

/-- Reads the options of `nl`. -/
def nlStyle (c : Call) (st : NumberStyle) : List (String × String) → Program NumberStyle
  | [] => pure st
  | (key, value) :: rest => do
    let numbering (part : String) : Program Numbering :=
      match value.toList with
      | ['a'] => pure .all
      | ['t'] => pure .filled
      | ['n'] => pure .none
      | 'p' :: cs =>
        match Regex.read Regex.basic (String.ofList cs) with
        | .ok (r, _) => pure (.matching r)
        | .error e => c.fail e.message 1
      | _ => c.misuse ("invalid " ++ part ++ " numbering style: " ++ inQuotes value) 1
    let number (what : String) : Program Int :=
      match integer? value with
      | some n => pure n
      | none => c.fail ("invalid " ++ what ++ ": " ++ inQuotes value) 1
    let positive (what : String) : Program Nat := do
      let n ← number what
      if 0 < n then pure n.toNat
      else c.fail ("invalid " ++ what ++ ": " ++ inQuotes value
        ++ ": Numerical result out of range") 1
    let st ← match key with
      | "h" => do pure { st with head := ← numbering "header" }
      | "b" => do pure { st with body := ← numbering "body" }
      | "f" => do pure { st with foot := ← numbering "footer" }
      | "v" => do pure { st with first := ← number "starting line number" }
      | "i" => do pure { st with step := ← number "line number increment" }
      | "p" => pure { st with goesOn := true }
      | "l" => do pure { st with join := ← positive "line number of blank lines" }
      | "s" => pure { st with separator := value }
      | "w" => do pure { st with width := ← positive "line number field width" }
      | "n" =>
        if ["ln", "rn", "rz"].contains value then pure { st with align := value }
        else c.misuse ("invalid line numbering format: " ++ inQuotes value) 1
      | _ => pure { st with delimiter := if value.length = 1 then value.push ':' else value }
    nlStyle c st rest

def nl : Utility := fun c => do
  let p ← nlOptions.of c 1
  let st ← nlStyle c {} p.options
  let (_, fine) ← c.eachFile p.operands (fun name _ => nameText name)
    (fun s _ text => do
      let (pieces, s) := (Line.ofText '\n' text).foldl (fun (pieces, s) line =>
        let (piece, s) := st.line s line.text
        (piece :: pieces, s)) (([] : List String), s)
      c.put (String.join pieces.reverse)
      pure s) ({ number := st.first } : NumberState)
  pure (if fine then 0 else 1)

/-! ## Into files -/

def teeOptions : Options where
  short := "aip"
  long := [("append", .none, "a"), ("ignore-interrupts", .none, "i"),
    ("output-error", .optional, "p")]

def tee : Utility := fun c => do
  let p ← teeOptions.of c 1
  let mut fds := []
  let mut fine := true
  for name in p.operands do
    let adds := p.has "a"
    match ← Program.openPath name { write := true, create := true, truncate := !adds,
                                    append := adds } with
    | .ok fd => fds := fds ++ [(name, fd)]
    | .error e => do
      c.warn (nameText name ++ ": " ++ e.reason)
      fine := false
  let targets := ("standard output", 1) :: fds
  let result ← eachPiece 0 Program.plenty (fun before text => do
    let mut fine := before
    for (name, fd) in targets do
      match ← Program.write fd text with
      | .ok () => pure ()
      | .error e => do
        c.warn (nameText name ++ ": " ++ e.reason)
        fine := false
    pure (fine, true)) fine
  match result with
  | .ok isFine => pure (if isFine then 0 else 1)
  | .error e => c.fail ("read error: " ++ e.reason) 1

end HostFleet.Utility
