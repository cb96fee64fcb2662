import HostFleet.Number.Floating
import HostFleet.Text.ByteText
import HostFleet.Text.ShellWord

/-!
# Formatted output

The backslash escapes and the conversions by which `echo` and `printf` describe what they write.
-/

namespace HostFleet.Format

/-- Whose rules hold: those of the plain shell, of the large shell, or of the programs. -/
inductive Dialect where
  | shell
  | large
  | program
  deriving DecidableEq

def isOctal (c : Char) : Bool := '0' ≤ c && c ≤ '7'

def isHex (c : Char) : Bool := c.isDigit || ('a' ≤ c.toLower && c.toLower ≤ 'f')

def digitValue (c : Char) : Nat := if c.isDigit then c.toNat - 48 else c.toLower.toNat - 87

def valueOf (base : Nat) (ds : List Char) : Nat := ds.foldl (fun n c => n * base + digitValue c) 0

/-- The byte of a number. -/
def byte (n : Nat) : String := String.singleton (Char.ofNat (n % 256))

/-- The bytes of a character that is given by its number. -/
def scalar (n : Nat) : String := ByteText.ofText (String.singleton (Char.ofNat n))

/-- What an escape stands for: bytes, or the end of all output. -/
inductive Escape where
  | bytes (s : String)
  | stop
  /-- A number that is not there. -/
  | broken

/-- The escape after a backslash, and how many characters it takes. `zeroFirst` tells whether a
number in octal comes after a zero, as in arguments; `quoted` whether a quote can be escaped. -/
def escape (d : Dialect) (zeroFirst : Bool) (cs : List Char) : Escape × Nat :=
  let plain (n : Nat) : Escape × Nat := (.bytes (byte n), 1)
  let numbered (most : Nat) (rest : List Char) (show' : Nat → String) : Escape × Nat :=
    let ds := (rest.take most).takeWhile isHex
    if ds.isEmpty then (.broken, 1) else (.bytes (show' (valueOf 16 ds)), ds.length + 1)
  match cs with
  | [] => (.bytes "\x5c", 0)
  | c :: rest =>
    if c = '\x5c' then plain 0x5c
    else if c = 'a' then plain 7
    else if c = 'b' then plain 8
    else if c = 'f' then plain 12
    else if c = 'n' then plain 10
    else if c = 'r' then plain 13
    else if c = 't' then plain 9
    else if c = 'v' then plain 11
    else if c = 'c' && (zeroFirst || d = .program) then (.stop, 1)
    else if (c = 'e' || (c = 'E' && d = .large)) && d != .shell then plain 27
    else if c = '\x22' && (d != .shell || !zeroFirst) then plain 0x22
    else if c = '\x27' && d = .large && !zeroFirst then plain 0x27
    else if c = 'x' && d != .shell then
      if rest.head?.any isHex || d = .program then numbered 2 rest byte
      else (.bytes "\x5cx", 1)
    else if (c = 'u' || c = 'U') && d != .shell && (rest.head?.any isHex || d = .program) then
      numbered (if c = 'u' then 4 else 8) rest scalar
    else if c = '0' && zeroFirst then
      let ds := (rest.take 3).takeWhile isOctal
      (.bytes (byte (valueOf 8 ds)), ds.length + 1)
    else if isOctal c then
      let ds := (cs.take 3).takeWhile isOctal
      (.bytes (byte (valueOf 8 ds)), ds.length)
    else if d = .program then (.bytes (String.ofList ['\x5c', c]), 1)
    else (.bytes "\x5c", 0)

/-- A text with its escapes replaced, and what ends all output, if something does. -/
def unescape (d : Dialect) (cs : List Char) : List Char × Option Escape :=
  match cs with
  | [] => ([], none)
  | '\x5c' :: rest =>
    match escape d true rest with
    | (.bytes s, n) =>
      let (more, ended) := unescape d (rest.drop n)
      (s.toList ++ more, ended)
    | (ended, _) => ([], some ended)
  | c :: rest =>
    let (more, ended) := unescape d rest
    (c :: more, ended)
termination_by cs.length
decreasing_by
  · simp only [List.length_drop, List.length_cons]
    omega
  · simp

/-- What the shell's own `echo` writes. -/
def shellEcho (args : List String) : String :=
  let (newline, args) := match args with
    | "-n" :: rest => (false, rest)
    | args => (true, args)
  let (cs, ended) := unescape .shell (" ".intercalate args).toList
  String.ofList (if newline && ended.isNone then cs ++ ['\n'] else cs)

/-- What an `echo` with options writes. `always` says that it knows escapes without being told. -/
def largeEcho (always : Bool) (args : List String) : String :=
  let isOption (s : String) : Bool := match s.toList with
    | '-' :: c :: cs => (c :: cs).all fun c => c = 'n' || c = 'e' || c = 'E'
    | _ => false
  let options := (args.takeWhile isOption).flatMap fun s => s.toList
  let words := " ".intercalate (args.dropWhile isOption)
  let escapes := match (options.filter fun c => c = 'e' || c = 'E').getLast? with
    | some c => c == 'e'
    | none => always
  let (cs, ended) := if escapes then unescape .large words.toList else (words.toList, none)
  String.ofList (if options.contains 'n' || ended.isSome then cs else cs ++ ['\n'])

/-- What the stand-alone `echo` writes. -/
def programEcho (args : List String) : String := largeEcho false args

/-- How a conversion is filled up. -/
structure Spec where
  left : Bool := false
  plus : Bool := false
  space : Bool := false
  alternate : Bool := false
  zero : Bool := false
  width : Nat := 0
  precision : Option Nat := none

namespace Spec

def pad (s : Spec) (cs : List Char) : List Char :=
  let missing := List.replicate (s.width - cs.length) ' '
  if s.left then cs ++ missing else missing ++ cs

/-- A number with its sign, filled up with zeros where the conversion asks for them. -/
def padNumber (s : Spec) (fillsZeros : Bool) (sign digits : List Char) : List Char :=
  let digits :=
    if s.zero && !s.left && fillsZeros then
      List.replicate (s.width - sign.length - digits.length) '0' ++ digits
    else digits
  s.pad (sign ++ digits)

def sign (s : Spec) (negative : Bool) : List Char :=
  if negative then ['-'] else if s.plus then ['+'] else if s.space then [' '] else []

/-- The digits of a whole number under a conversion. -/
def digits (s : Spec) (conversion : Char) (n : Nat) : List Char :=
  let base := match conversion with
    | 'o' => 8
    | 'x' => 16
    | 'X' => 16
    | _ => 10
  let ds := if n = 0 && s.precision = some 0 then [] else Nat.toDigits base n
  let ds := List.replicate (s.precision.getD 0 - ds.length) '0' ++ ds
  let ds := if conversion = 'o' && s.alternate && ds.head? != some '0' then '0' :: ds else ds
  if conversion = 'X' then ds.map Char.toUpper else ds

/-- A whole number under a conversion; those without sign take it as it is in 64 bits. -/
def integer (s : Spec) (conversion : Char) (n : Int) : List Char :=
  if conversion = 'd' || conversion = 'i' then
    s.padNumber s.precision.isNone (s.sign (n < 0)) (s.digits 'd' n.natAbs)
  else
    let word : Nat := (n % Int.pow 2 64).toNat
    let start := if s.alternate && word != 0 then
        if conversion = 'x' then ['0', 'x'] else if conversion = 'X' then ['0', 'X'] else []
      else []
    s.padNumber s.precision.isNone start (s.digits conversion word)

def floating (s : Spec) (conversion : Char) (lead : Nat) (x : Floating) : List Char :=
  s.padNumber x.isFinite (s.sign x.isNegative)
    (x.magnitude conversion s.precision s.alternate lead)

def text (s : Spec) (cs : List Char) : List Char :=
  s.pad (match s.precision with
    | some p => cs.take p
    | none => cs)

end Spec

/-- What is wrong with an argument that should be a number. -/
inductive NumberFault where
  | noNumber
  | trailing
  | range
  deriving DecidableEq

namespace NumberFault

def message (d : Dialect) (arg : String) : NumberFault → String
  | .noNumber => match d with
    | .shell => arg ++ ": expected numeric value"
    | .large => arg ++ ": invalid number"
    | .program => "\x27" ++ arg ++ "\x27: expected a numeric value"
  | .trailing => match d with
    | .shell => arg ++ ": not completely converted"
    | .large => arg ++ ": invalid number"
    | .program => "\x27" ++ arg ++ "\x27: value not completely converted"
  | .range => match d with
    | .shell => arg ++ ": Numerical result out of range"
    | .large => "warning: " ++ arg ++ ": Numerical result out of range"
    | .program => "\x27" ++ arg ++ "\x27: Numerical result out of range"

end NumberFault

def isSpace (c : Char) : Bool := c = ' ' || (9 ≤ c.toNat && c.toNat ≤ 13)

/-- The number that a quote at the front gives: that of the next character. -/
def quotedValue? : List Char → Option Nat
  | '\x27' :: c :: _ => some c.toNat
  | '\x22' :: c :: _ => some c.toNat
  | _ => none

/-- The whole number an argument spells, within the bounds of 64 bits, and what is wrong if it
spells none. -/
def number (d : Dialect) (signed : Bool) (arg : String) : Int × Option NumberFault :=
  match quotedValue? arg.toList with
  | some n => (n, none)
  | none =>
    let cs := arg.toList.dropWhile isSpace
    let (negative, body) := match cs with
      | '-' :: rest => (true, rest)
      | '+' :: rest => (false, rest)
      | cs => (false, cs)
    let read (base : Nat) (isDigit : Char → Bool) (ds : List Char) : Int × Option NumberFault :=
      let digits := ds.takeWhile isDigit
      let n : Nat := valueOf base digits
      let trailing : Option NumberFault :=
        if digits.isEmpty then if arg.isEmpty && d != .program then none else some .noNumber
        else if digits.length < ds.length then some .trailing
        else none
      let least : Int := -(Int.pow 2 63)
      let most : Int := if signed then Int.pow 2 63 - 1 else Int.pow 2 64 - 1
      let value : Int := if negative then -(n : Int) else n
      if signed && value < least then (least, trailing.or (some .range))
      else if (if signed then value else (n : Int)) > most then (most, trailing.or (some .range))
      else (value, trailing)
    match body with
    | '0' :: x :: d :: ds =>
      if (x = 'x' || x = 'X') && isHex d then read 16 isHex (d :: ds) else read 8 isOctal body
    | '0' :: _ => read 8 isOctal body
    | ds => read 10 Char.isDigit ds

/-- The number with a point that an argument spells. -/
def floatingNumber (d : Dialect) (arg : String) : Floating × Option NumberFault :=
  let p := if d = .shell then Floating.double else Floating.extended
  match quotedValue? arg.toList with
  | some n => (Floating.ofRatio p false n 1, none)
  | none =>
    match Floating.read? p (arg.toList.dropWhile isSpace) with
    | none => (.finite false 0 0,
        if arg.isEmpty && d != .program then none else some .noNumber)
    | some (x, rest) =>
      let named := (arg.toList.dropWhile isSpace).any fun c => c = 'i' || c = 'I'
      let tiny : Bool := match x with
        | .finite _ m e => m != 0 && m < Nat.pow 2 (p.bits - 1) && e = p.lowest
        | _ => false
      let huge : Bool := match x with
        | .infinite _ => !named
        | _ => false
      (x, if !rest.isEmpty then some .trailing else if huge || tiny then some .range else none)

/-- What a run through a format gives. -/
structure Output where
  /-- The text written so far, last piece first. -/
  pieces : List String := []
  args : List String
  /-- Whether an argument was taken. -/
  used : Bool := false
  stopped : Bool := false
  /-- What is wrong with arguments that are no numbers. -/
  faults : List String := []
  /-- Whether one of the faults makes the command fail. -/
  failed : Bool := false
  /-- What is wrong with the format. -/
  broken : Option String := none

namespace Output

def text (o : Output) : String := String.join o.pieces.reverse

def add (o : Output) (cs : List Char) : Output := { o with pieces := String.ofList cs :: o.pieces }

/-- The next argument, if one is left. -/
def take (o : Output) : Option String × Output :=
  match o.args with
  | [] => (none, o)
  | a :: rest => (some a, { o with args := rest, used := true })

def complain (o : Output) (d : Dialect) (arg : String) : Option NumberFault → Output
  | none => o
  | some fault => { o with
      faults := o.faults ++ [fault.message d arg]
      failed := o.failed || d != .large || fault != .range }

/-- Stops at a fault of the format. -/
def break' (o : Output) (message : String) : Output :=
  { o with stopped := true, broken := some message }

end Output

/-- The flags of a conversion. -/
def flags (s : Spec) : List Char → Spec × List Char
  | '-' :: rest => flags { s with left := true } rest
  | '+' :: rest => flags { s with plus := true } rest
  | ' ' :: rest => flags { s with space := true } rest
  | '#' :: rest => flags { s with alternate := true } rest
  | '0' :: rest => flags { s with zero := true } rest
  | cs => (s, cs)

/-- A width or precision: digits, or a star for the next argument, of which the shells keep 32
bits. -/
def measure (d : Dialect) (o : Output) : List Char → Int × Output × List Char
  | '*' :: rest =>
    let (given, o) := o.take
    let arg := given.getD ""
    let (n, fault) := if given.isNone then (0, none) else number d true arg
    let o := o.complain d arg fault
    if d = .program then (n, o, rest) else (Int.bmod n (Nat.pow 2 32), o, rest)
  | cs => (valueOf 10 (cs.takeWhile Char.isDigit), o, cs.dropWhile Char.isDigit)

/-- One conversion of the next argument. -/
def convert (d : Dialect) (s : Spec) (c : Char) (o : Output) : Output :=
  let (given, o) := o.take
  let arg := given.getD ""
  if c = 's' then o.add (s.text arg.toList)
  else if c = 'q' then
    let word := if d = .large then ShellWord.backslashed arg else ShellWord.quoted arg
    o.add (s.pad word.toList)
  else if c = 'c' then
    o.add (s.pad (if arg.isEmpty then
      if d = .large || (given.isNone && d = .program) then [] else ['\x00']
      else arg.toList.take 1))
  else if c = 'b' then
    let (cs, ended) := unescape (if d = .program then .program else d) arg.toList
    match ended with
    | some .broken => { o with stopped := true, failed := true,
                               faults := o.faults ++ ["missing hexadecimal number in escape"] }
    | ended => { o.add (s.text cs) with stopped := ended.isSome }
  else if ['d', 'i', 'u', 'o', 'x', 'X'].contains c then
    let (n, fault) := if given.isNone then (0, none) else number d (c = 'd' || c = 'i') arg
    (o.complain d arg fault).add (s.integer c n)
  else
    let (x, fault) :=
      if given.isNone then (Floating.finite false 0 0, none) else floatingNumber d arg
    (o.complain d arg fault).add (s.floating c (if d = .shell then 1 else 4) x)

def isConversion (d : Dialect) (c : Char) : Bool :=
  "scbdiuoxXeEfFgGaA".toList.contains c || (c = 'q' && d != .shell)

/-- The letters that tell how long a number is. They change nothing. -/
def skipLength (d : Dialect) (cs : List Char) : List Char :=
  if d = .shell then cs else cs.dropWhile fun c => "hlLjzt".toList.contains c

/-- One run through the format. -/
def run (d : Dialect) (fuel : Nat) (cs : List Char) (o : Output) : Output :=
  match fuel, cs with
  | 0, _ => o
  | _, [] => o
  | fuel + 1, '\x5c' :: rest =>
    match escape d false rest with
    | (.stop, _) => { o with stopped := true }
    | (.broken, _) => o.break' "missing hexadecimal number in escape"
    | (.bytes s, n) => run d fuel (rest.drop n) { o with pieces := s :: o.pieces }
  | fuel + 1, '%' :: '%' :: rest => run d fuel rest (o.add ['%'])
  | fuel + 1, '%' :: start =>
    let (s, rest) := flags {} start
    let (width, o, rest) := measure d o rest
    let s := if width < 0 then { s with left := true, width := width.natAbs }
      else { s with width := width.toNat }
    let (precision, o, rest) : Option Nat × Output × List Char := match rest with
      | '.' :: rest =>
        let (p, o, rest) := measure d o rest
        (if p < 0 then none else some p.toNat, o, rest)
      | rest => (none, o, rest)
    let s := { s with precision := precision }
    let rest := skipLength d rest
    let shown := String.ofList ('%' :: start.take (start.length - rest.length + 1))
    match rest with
    | [] =>
      o.break' (match d with
        | .shell => "missing format character"
        | .large => "\x60" ++ shown ++ "\x27: missing format character"
        | .program => shown ++ ": invalid conversion specification")
    | c :: rest =>
      let isPlain := s.width = 0 && !s.left && !s.plus && !s.space && !s.alternate && !s.zero
      let fits := d != .program ||
        (!(c = 'b' || c = 'q') || (isPlain && s.precision.isNone)) &&
        (!(c = 's' || c = 'c') || !(s.zero || s.alternate))
      if d = .shell && s.width = Nat.pow 2 31 then o.break' "xvsnprintf failed"
      else if isConversion d c && fits then
        let o := convert d s c o
        if o.stopped then o else run d fuel rest o
      else o.break' (match d with
        | .shell => shown ++ ": invalid directive"
        | .large => "\x60" ++ String.singleton c ++ "\x27: invalid format character"
        | .program => shown ++ ": invalid conversion specification")
  | fuel + 1, c :: rest => run d fuel rest (o.add [c])

/-- Goes through the format again as long as arguments are left. -/
def printf (d : Dialect) (format : String) (fuel : Nat) (o : Output) : Output :=
  match fuel with
  | 0 => o
  | fuel + 1 =>
    let o := run d (format.length + 1) format.toList { o with used := false }
    if o.stopped || !o.used || o.args.isEmpty then o else printf d format fuel o

end HostFleet.Format
