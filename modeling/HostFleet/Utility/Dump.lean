import HostFleet.Number.Floating
import HostFleet.Utility.Excerpt

/-!
# Dumps

`od` writes what files hold in rows of numbers or characters, each row behind its place.
-/

namespace HostFleet.Utility

open Machine

/-- How the items of a row are written. -/
inductive ItemShape where
  | octal
  | signed
  | unsigned
  | hexadecimal
  | floating
  /-- Characters by name. -/
  | named
  /-- Characters, some of them with backslashes. -/
  | character
  deriving DecidableEq, Repr

/-- A way to write rows: the shape of items, their size in bytes, and whether characters follow. -/
structure DumpFormat where
  shape : ItemShape
  size : Nat
  showsText : Bool := false

namespace DumpFormat

/-- How wide the widest item is. -/
def width (f : DumpFormat) : Nat :=
  match f.shape with
  | .octal => (8 * f.size + 2) / 3
  | .signed => (toString (Nat.pow 2 (8 * f.size - 1))).length + 1
  | .unsigned => (toString (Nat.pow 2 (8 * f.size) - 1)).length
  | .hexadecimal => 2 * f.size
  | .floating => if f.size = 4 then 15 else 24
  | .named => 3
  | .character => 3

def names : List String :=
  ["nul", "soh", "stx", "etx", "eot", "enq", "ack", "bel", "bs", "ht", "nl", "vt", "ff", "cr",
    "so", "si", "dle", "dc1", "dc2", "dc3", "dc4", "nak", "syn", "etb", "can", "em", "sub", "esc",
    "fs", "gs", "rs", "us", "sp"]

/-- Digits of a number in a base, with zeros in front of them. -/
def zeroPadded (base width n : Nat) : String :=
  let ds := Nat.toDigits base n
  String.ofList (List.replicate (width - ds.length) '0' ++ ds)

def isGraphic (c : Char) : Bool := 32 ≤ c.toNat && c.toNat < 127

def characterText (c : Char) : String :=
  match ("\x00\x07\x08\t\n\x0b\x0c\r".toList.zip "0abtnvfr".toList).lookup c with
  | some letter => String.ofList ['\x5c', letter]
  | none => if isGraphic c then String.singleton c else zeroPadded 8 3 c.toNat

def nameOf (c : Char) : String :=
  let n := c.toNat % 128
  if n = 127 then "del" else (names[n]?).getD (String.singleton (Char.ofNat n))

/-- The text of an item, whose lowest byte comes first. -/
def text (f : DumpFormat) (bytes : List Char) : String :=
  let n := bytes.foldr (fun c n => n * 256 + c.toNat) 0
  match f.shape with
  | .octal => zeroPadded 8 f.width n
  | .signed =>
    toString (if Nat.pow 2 (8 * f.size - 1) ≤ n then (n : Int) - Int.pow 2 (8 * f.size) else n)
  | .unsigned => toString n
  | .hexadecimal => zeroPadded 16 f.width n
  | .floating =>
    let text := if f.size = 4 then
        Floating.shortest Floating.single (Floating.ofWord Floating.single 8 n) 9 1
      else Floating.shortest Floating.double (Floating.ofWord Floating.double 11 n) 17 1
    String.ofList text
  | .named => nameOf (Char.ofNat n)
  | .character => characterText (Char.ofNat n)

end DumpFormat

/-- What is wrong with the text that asks for a way to write rows. -/
inductive FormatFault where
  | unknown (c : Char)
  | size (n : Nat) (isFloating : Bool)
  | malformed

def FormatFault.message (whole : String) : FormatFault → String
  | .unknown c => "invalid character '" ++ String.singleton c ++ "' in type string "
    ++ inQuotes whole
  | .size n isFloating => "invalid type string " ++ inQuotes whole
    ++ ";\nthis system doesn't provide a " ++ toString n ++ "-byte "
    ++ (if isFloating then "floating point" else "integral") ++ " type"
  | .malformed => "invalid type string " ++ inQuotes whole

/-- The size that stands behind a letter: one of the letters for sizes, or a number. -/
def takeSize (letters : List (Char × Nat)) (usual : Nat) (sizes : List Nat) (isFloating : Bool)
    (cs : List Char) : Except FormatFault (Nat × List Char) :=
  match cs.head?.bind (letters.lookup ·) with
  | some n => .ok (n, cs.tail)
  | none =>
    let ds := cs.takeWhile Char.isDigit
    let n := ((String.ofList ds).toNat?).getD 0
    if ds.isEmpty then .ok (usual, cs)
    else if Nat.pow 2 31 ≤ n then .error .malformed
    else if sizes.contains n then .ok (n, cs.drop ds.length)
    else .error (.size n isFloating)

/-- The ways to write rows that a text asks for. -/
def takeFormats (fuel : Nat) (cs : List Char) : Except FormatFault (List DumpFormat) :=
  match fuel, cs with
  | 0, _ => .ok []
  | _, [] => .ok []
  | fuel + 1, c :: rest => do
    let shapes := [('d', ItemShape.signed), ('o', .octal), ('u', .unsigned), ('x', .hexadecimal)]
    let (shape, size, rest) ← match shapes.lookup c, c with
      | some shape, _ => do
        let (size, rest) ← takeSize [('C', 1), ('S', 2), ('I', 4), ('L', 8)] 4 [1, 2, 4, 8] false
          rest
        .ok (shape, size, rest)
      | none, 'f' => do
        let (size, rest) ← takeSize [('F', 4), ('D', 8)] 8 [4, 8] true rest
        .ok (.floating, size, rest)
      | none, 'a' => .ok (ItemShape.named, 1, rest)
      | none, 'c' => .ok (ItemShape.character, 1, rest)
      | none, c => .error (.unknown c)
    let showsText := rest.head? = some 'z'
    let more ← takeFormats fuel (if showsText then rest.tail else rest)
    .ok (⟨shape, size, showsText⟩ :: more)

/-- How a dump is made. -/
structure Dump where
  formats : List DumpFormat
  /-- The number of bytes in a row. -/
  row : Nat
  /-- The base and the width of places; no base means that they are not written. -/
  radix : Option (Nat × Nat)
  showsAll : Bool := false
  bigFirst : Bool := false

namespace Dump

def place (d : Dump) (n : Nat) : String :=
  match d.radix with
  | some (base, width) => DumpFormat.zeroPadded base width n
  | none => ""

/-- How wide the widest of the formats makes a row. -/
def rowWidth (d : Dump) : Nat :=
  (d.formats.map fun f => (f.width + 1) * (d.row / f.size)).foldl max 0

/-- The items of a row in one format, and the characters that follow. -/
def line (d : Dump) (f : DumpFormat) (cs : List Char) : String :=
  let fields := d.row / f.size
  let blanks := (d.row - cs.length) / f.size
  let pad := d.rowWidth - f.width * fields
  let rec items (n : Nat) (left : Nat) (cs : List Char) : List String :=
    match n with
    | 0 => []
    | n + 1 =>
      if n + 1 ≤ blanks then []
      else
        let next := pad * n / fields
        let item := cs.take f.size
        let item := item ++ List.replicate (f.size - item.length) '\x00'
        padLeft (left - next + f.width) (f.text (if d.bigFirst then item.reverse else item))
          :: items n next (cs.drop f.size)
  let trailer := if !f.showsText then ""
    else "".pushn ' ' (blanks * f.width + pad * blanks / fields) ++ "  >"
      ++ String.ofList (cs.map fun c => if DumpFormat.isGraphic c then c else '.') ++ "<"
  String.join (items fields pad cs) ++ trailer ++ "\n"

/-- All rows from a place on. A row like the one before it is left out, and a star stands for such
rows. -/
def rows (d : Dump) (fuel place : Nat) (last : List Char) (isStarred : Bool) (done : List String)
    (cs : List Char) : List String :=
  match fuel with
  | 0 => done
  | fuel + 1 =>
    if cs.isEmpty then (if d.radix.isSome then d.place place ++ "\n" else "") :: done
    else
      let row := cs.take d.row
      if !d.showsAll && row.length = d.row && row == last then
        rows d fuel (place + row.length) row true (if isStarred then done else "*\n" :: done)
          (cs.drop d.row)
      else
        let front := d.place place
        let lines := d.formats.zipIdx.map fun (f, i) =>
          (if i = 0 then front else "".pushn ' ' front.length) ++ d.line f row
        rows d fuel (place + row.length) row false (String.join lines :: done) (cs.drop d.row)

/-- The texts of at least `least` characters that a zero ends, each behind its place. -/
def strings (d : Dump) (least place : Nat) (run : List Char) (done : List String) :
    List Char → List String
  | [] => done
  | c :: cs =>
    if DumpFormat.isGraphic c then strings d least (place + 1) (c :: run) done cs
    else
      let found := if c = '\x00' && least ≤ run.length then
          let front := d.place (place - run.length)
          let front := if front.isEmpty then "" else front ++ " "
          (front ++ String.ofList run.reverse ++ "\n") :: done
        else done
      strings d least (place + 1) [] found cs

end Dump

/-- A count of bytes, in any base, with a letter that multiplies it. -/
def byteCount (c : Call) (option text : String) : Program Nat := do
  let cs := text.toList
  let hexValue (ch : Char) : Nat :=
    if ch.isDigit then ch.toNat - 48 else ch.toLower.toNat - 87
  let isHexDigit (ch : Char) : Bool := ch.isDigit || ('a' ≤ ch.toLower && ch.toLower ≤ 'f')
  let isOctal (ch : Char) : Bool := '0' ≤ ch && ch ≤ '7'
  let (base, body) : Nat × List Char := match cs with
    | '0' :: x :: rest =>
      if x = 'x' || x = 'X' then (16, rest) else (8, '0' :: x :: rest)
    | cs => (10, cs)
  let ds := body.takeWhile (if base = 16 then isHexDigit else if base = 8 then isOctal
    else Char.isDigit)
  if ds.isEmpty then c.fail ("invalid " ++ option ++ " argument " ++ inQuotes text) 1
  else match multiplier? (body.drop ds.length) with
    | none => c.fail ("invalid suffix in " ++ option ++ " argument " ++ inQuotes text) 1
    | some factor =>
      let n := ds.foldl (fun n ch => n * base + hexValue ch) 0 * factor
      if Nat.pow 2 64 ≤ n then c.fail (option ++ " argument " ++ inQuotes text ++ " too large") 1
      else pure n

/-- The place that an argument such as `+20` asks for. -/
def oldOffset? (text : String) : Option Nat :=
  let cs := text.toList
  let cs := if cs.head? = some '+' then cs.tail else cs
  let (cs, unit) := match cs.getLast? with
    | some 'b' => (cs.dropLast, 512)
    | some 'B' => (cs.dropLast, 1024)
    | _ => (cs, 1)
  let (base, cs) : Nat × List Char := match cs with
    | '0' :: 'x' :: rest => (16, rest)
    | cs => (8, cs)
  let value (ch : Char) : Nat := if ch.isDigit then ch.toNat - 48 else ch.toNat - 87
  if cs.isEmpty || cs.any fun ch => !(ch.isDigit || ('a' ≤ ch && ch ≤ 'f')) || base ≤ value ch then
    none
  else some (cs.foldl (fun n ch => n * base + value ch) 0 * unit)

/-- Reads no more than so many bytes. -/
def readUpTo (fd fuel : Nat) (left : Option Nat) (done : List String) :
    Program (Except OsError String) :=
  match fuel with
  | 0 => pure (.ok "")
  | fuel + 1 => do
    if left = some 0 then pure (.ok (String.join done.reverse))
    else
      match ← Program.readAtMost fd (min 4096 (left.getD 4096)) with
      | .error e => pure (.error e)
      | .ok "" => pure (.ok (String.join done.reverse))
      | .ok text => readUpTo fd fuel (left.map (· - text.length)) (text :: done)

/-- The files one after the other, as far as they are needed; whether one could be opened, and
whether all could be read. -/
def concatenated (c : Call) (names : List String) (need : Option Nat) :
    Program (String × Bool × Bool) := do
  let mut texts := []
  let mut left := need
  let mut isOpen := false
  let mut fine := true
  for name in if names.isEmpty then ["-"] else names do
    let opened ← if name = "-" then pure (.ok 0) else Program.openPath name { read := true }
    match opened with
    | .error e => do
      c.warn (nameText name ++ ": " ++ e.reason)
      fine := false
    | .ok fd => do
      isOpen := true
      match ← readUpTo fd Program.plenty left [] with
      | .error e => do
        c.warn ((if name = "-" then "standard input" else nameText name) ++ ": " ++ e.reason)
        fine := false
      | .ok text =>
        texts := text :: texts
        left := left.map (· - text.length)
      if fd != 0 then Program.close fd
  pure (String.join texts.reverse, isOpen, fine)

/-- The formats that single letters stand for. -/
def oldFormats : List (String × String) :=
  [("a", "a"), ("b", "o1"), ("c", "c"), ("D", "u4"), ("d", "u2"), ("e", "fD"), ("F", "fD"),
    ("f", "fF"), ("X", "x4"), ("H", "x4"), ("i", "dI"), ("I", "dL"), ("L", "dL"), ("l", "dL"),
    ("O", "o4"), ("B", "o2"), ("o", "o2"), ("s", "d2"), ("h", "x2"), ("x", "x2")]

def odOptions : Options where
  short := "A:aBbcDdeFfHhIij:LlN:OoS:st:vw::Xx"
  long := [("skip-bytes", .required, "j"), ("address-radix", .required, "A"),
    ("read-bytes", .required, "N"), ("format", .required, "t"), ("output-duplicates", .none, "v"),
    ("strings", .optional, "S"), ("traditional", .none, "traditional"), ("width", .optional, "w"),
    ("endian", .required, "endian")]

/-- The files, and where to begin, if arguments of the old kind say so. -/
def oldArguments (p : Parsed) : List String × Option Nat :=
  let isModern := ["A", "j", "N", "S", "t", "v", "w"].any p.has
  let takes (text : String) (alsoDigit : Bool) : Bool :=
    p.has "traditional" || text.startsWith "+"
      || (alsoDigit && (text.toList.head?.any Char.isDigit))
  if isModern && !p.has "traditional" then (p.operands, none)
  else match p.operands with
    | [offset] =>
      match if takes offset false then oldOffset? offset else none with
      | some n => ([], some n)
      | none => ([offset], none)
    | [name, offset] =>
      match if takes offset true then oldOffset? offset else none with
      | some n => ([name], some n)
      | none => ([name, offset], none)
    | names => (names, none)

def od : Utility := fun c => do
  let p ← odOptions.of c 1
  for (key, value) in p.options do
    if key = "endian" && !(["little", "big"].contains value) then
      c.wrongChoice "--endian" value [["little"], ["big"]] 1
  let radix ← match p.value? "A" with
    | none => pure (some (8, 7))
    | some text =>
      match text.toList.head? with
      | some 'd' => pure (some (10, 7))
      | some 'o' => pure (some (8, 7))
      | some 'x' => pure (some (16, 6))
      | some 'n' => pure none
      | _ => c.fail ("invalid output address radix '" ++ (text.take 1).toString
        ++ "'; it must be one character from [doxn]") 1
  let count (key : String) : Program (Option Nat) :=
    match p.value? key with
    | none => pure none
    | some text => do pure (some (← byteCount c ("-" ++ key) text))
  let skip ← count "j"
  let limit ← count "N"
  let least ← match p.value? "S" with
    | none => pure none
    | some "" => pure (some 3)
    | some text => do pure (some (← byteCount c "-S" text))
  let (asked, fine) ← p.options.foldlM (fun (found, fine) (key, value) =>
    match if key = "t" then some value else oldFormats.lookup key with
    | none => pure (found, fine)
    | some text =>
      match takeFormats (text.length + 1) text.toList with
      | .ok fs => pure (found ++ fs, fine)
      | .error e => do
        c.warn (e.message text)
        pure (found, false)) (([] : List DumpFormat), true)
  if !fine then Program.exit 1
  if least.isSome && !asked.isEmpty then
    c.fail "no type may be specified when dumping strings" 1
  let formats := if asked.isEmpty then [⟨.octal, 2, false⟩] else asked
  let (names, old) := oldArguments p
  let skip := old.getD (skip.getD 0)
  let unit := (formats.map (·.size)).foldl Nat.lcm 1
  let row ← match p.value? "w" with
    | none => pure (if unit < 16 then unit * (16 / unit) else unit)
    | some text => do
      let n ← if text.isEmpty then pure 32 else byteCount c "-w" text
      if n != 0 && n % unit = 0 then pure n
      else do
        c.warn (s!"warning: invalid width {n}; using {unit} instead")
        pure unit
  let (text, isOpen, isRead) ← concatenated c names (limit.map (· + skip))
  if !isOpen then pure 1
  else if text.length < skip then c.fail "cannot skip past end of combined input" 1
  else do
    let cs := text.toList.drop skip
    let d : Dump :=
      { formats := formats, row := row, radix := radix, showsAll := p.has "v"
        bigFirst := p.value? "endian" = some "big" }
    let rows := match least with
      | some n => d.strings n skip [] [] cs
      | none => d.rows (cs.length + 1) skip [] false [] cs
    c.put (String.join rows.reverse)
    pure (if isRead then 0 else 1)

end HostFleet.Utility
