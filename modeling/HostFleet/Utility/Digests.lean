import HostFleet.Digest.Blake
import HostFleet.Digest.Checksum
import HostFleet.Digest.Md5
import HostFleet.Digest.Sha
import HostFleet.Utility.Options
import HostFleet.Utility.Stream

/-!
# Digests of files

`md5sum`, `sha256sum` and their kind, `cksum` and `sum` write digests of files, and check whether
files still have the digests that a list gives them.
-/

namespace HostFleet.Utility

open Machine Digest

/-- A way to sum a file up in hexadecimal digits. -/
structure Summary where
  title : String
  /-- How many bytes the digest has. -/
  size : Nat
  digest : Nat → Bytes → Bytes
  /-- Whether it can have fewer. -/
  hasLengths : Bool := false

namespace Summary

def fixed (title : String) (size : Nat) (digest : Bytes → Bytes) : Summary :=
  ⟨title, size, fun _ => digest, false⟩

def all : List (String × Summary) :=
  [("md5", fixed "MD5" 16 md5), ("sha1", fixed "SHA1" 20 sha1),
    ("sha224", fixed "SHA224" 28 sha224), ("sha256", fixed "SHA256" 32 sha256),
    ("sha384", fixed "SHA384" 48 sha384),
    ("sha512", fixed "SHA512" 64 sha512), ("blake2b", ⟨"BLAKE2b", 64, blake2b, true⟩)]

def named (name : String) : Summary := (all.lookup name).getD (fixed "" 0 id)

/-- The title with the length that is not the usual one. -/
def fullTitle (s : Summary) (size : Nat) : String :=
  if size = s.size then s.title else s.title ++ "-" ++ toString (8 * size)

end Summary

/-- A name in which newlines and backslashes are written with a backslash. -/
def escapedName (name : String) : String :=
  String.join (name.toList.map fun c => match c with
    | '\n' => "\x5cn"
    | '\r' => "\x5cr"
    | '\x5c' => "\x5c\x5c"
    | c => String.singleton c)

/-- The name that was written with backslashes. -/
def plainName? : List Char → Option (List Char)
  | [] => some []
  | '\x5c' :: 'n' :: rest => (plainName? rest).map ('\n' :: ·)
  | '\x5c' :: 'r' :: rest => (plainName? rest).map ('\r' :: ·)
  | '\x5c' :: '\x5c' :: rest => (plainName? rest).map ('\x5c' :: ·)
  | '\x5c' :: _ => none
  | c :: rest => (plainName? rest).map (c :: ·)

/-- How digests are written. -/
structure SummaryStyle where
  summary : Summary
  size : Nat
  isTagged : Bool := false
  isBinary : Bool := false
  endsInZero : Bool := false
  /-- Whether lists say themselves of each file which digest it has. -/
  isAny : Bool := false

/-- The digest that a line of a list is about. -/
def SummaryStyle.summaryFor (st : SummaryStyle) (line : String) : Summary :=
  if !st.isAny then st.summary
  else
    let cs := line.toList.dropWhile fun c => c = ' ' || c = '\t' || c = '\x5c'
    let title := String.ofList (cs.takeWhile fun c => c != ' ' && c != '-' && c != '(')
    ((Summary.all.map (·.2)).find? (·.title = title)).getD (Summary.fixed "\x00" 0 id)

/-- The line about a file. -/
def SummaryStyle.line (st : SummaryStyle) (name digits : String) : String :=
  let escapes := !st.endsInZero && name.toList.any fun c => c = '\n' || c = '\r' || c = '\x5c'
  let front := if escapes then "\x5c" else ""
  let name := if escapes then escapedName name else name
  let text := if st.isTagged then
      st.summary.fullTitle st.size ++ " (" ++ name ++ ") = " ++ digits
    else digits ++ " " ++ (if st.isBinary then "*" else " ") ++ name
  front ++ text ++ (if st.endsInZero then "\x00" else "\n")

/-! ## Checking -/

/-- What a line of a list says: the digits, the name, and how many bytes the digest has. -/
structure DigestEntry where
  digits : String
  name : String
  size : Nat

def isHex (c : Char) : Bool := c.isDigit || ('a' ≤ c && c ≤ 'f') || ('A' ≤ c && c ≤ 'F')

/-- Reads a line that begins with the title of a digest. -/
def readTagged? (s : Summary) (cs : List Char) : Option DigestEntry := do
  let (length, cs) ← match s.hasLengths, cs with
    | true, '-' :: rest =>
      let ds := rest.takeWhile Char.isDigit
      let n := ((String.ofList ds).toNat?).getD 0
      if n = 0 || n % 8 != 0 || 8 * s.size < n then none else some (n / 8, rest.drop ds.length)
    | _, cs => some (s.size, cs)
  let cs := if cs.head? = some ' ' then cs.tail else cs
  match cs with
  | '(' :: rest =>
    let back := rest.reverse
    let digits := (back.takeWhile isHex).reverse
    let back := (back.drop digits.length).dropWhile fun c => c = ' ' || c = '\t'
    match back with
    | '=' :: back =>
      match back.dropWhile fun c => c = ' ' || c = '\t' with
      | ')' :: name =>
        if digits.length = 2 * length then
          some ⟨String.ofList digits, String.ofList name.reverse, length⟩
        else none
      | _ => none
    | _ => none
  | _ => none

/-- Reads a line that begins with the digits. Some lists have one blank behind them and others a
blank and a sign for how the file was read; `isShort` tells which, once that is known. -/
def readPlain? (s : Summary) (size : Nat) (isShort : Option Bool) (cs : List Char) :
    Option (DigestEntry × Bool) :=
  let digits := cs.takeWhile isHex
  let size := if s.hasLengths then digits.length / 2 else size
  if digits.length != 2 * size || size = 0 then none
  else match cs.drop digits.length with
    | blank :: c :: name =>
      if blank != ' ' && blank != '\t' then none
      else
        let entry (name : List Char) : DigestEntry :=
          ⟨String.ofList digits, String.ofList name, size⟩
        if name.isEmpty || (c != ' ' && c != '*') then
          if isShort == some false then none else some (entry (c :: name), true)
        else if isShort == some true then some (entry (c :: name), true)
        else some (entry name, false)
    | _ => none

/-- Reads a line of a list. -/
def readEntry? (s : Summary) (size : Nat) (isShort : Option Bool) (line : String) :
    Option (DigestEntry × Option Bool) := do
  let cs := line.toList.dropWhile fun c => c = ' ' || c = '\t'
  let (escapes, cs) := if cs.head? = some '\x5c' then (true, cs.tail) else (false, cs)
  let (found, isShort) ← if s.title.toList.isPrefixOf cs then
      (readTagged? s (cs.drop s.title.length)).map fun e => (e, isShort)
    else (readPlain? s size isShort cs).map fun e => (e.1, some e.2)
  if escapes then
    let name ← plainName? found.name.toList
    some ({ found with name := String.ofList name }, isShort)
  else some (found, isShort)

/-- What came of checking the lines of a list. -/
structure Checked where
  listed : Nat := 0
  malformed : Nat := 0
  unread : Nat := 0
  wrong : Nat := 0
  right : Nat := 0
  isShort : Option Bool := none

/-- Reads a file, or the standard input. -/
def slurpInput (name : String) : Program (Except OsError String) := Call.slurp name

/-- Checks one line. -/
def checkLine (c : Call) (p : Parsed) (st : SummaryStyle) (list : String) (number : Nat)
    (found : Checked) (line : String) : Program Checked := do
  let line := if line.endsWith "\r" then String.ofList line.toList.dropLast else line
  let malformed : Program Checked := do
    if p.has "w" then
      c.warn (list ++ ": " ++ toString number ++ ": improperly formatted "
        ++ (if st.isAny then "" else st.summary.title ++ " ") ++ "checksum line")
    pure { found with malformed := found.malformed + 1 }
  let s := st.summaryFor line
  if line.startsWith "#" then pure found
  else match readEntry? s (if st.isAny then s.size else st.size) found.isShort line with
    | none => malformed
    | some (l, isShort) => do
      if list = "'standard input'" && l.name = "-" then malformed else
      let found := { found with listed := found.listed + 1, isShort := isShort }
      let say (word : String) : Program Unit :=
        if p.has "status" then pure ()
        else
          let escapes := l.name.toList.any fun c => c = '\n' || c = '\r' || c = '\x5c'
          c.put ((if escapes then "\x5c" ++ escapedName l.name else l.name) ++ ": " ++ word ++ "\n")
      match ← slurpInput l.name with
      | .error e => do
        if e = .notFound && p.has "ignore" then pure found
        else
          c.warn (nameText l.name ++ ": " ++ e.reason)
          say "FAILED open or read"
          pure { found with unread := found.unread + 1 }
      | .ok text => do
        let digits := hex (s.digest l.size (ByteText.toBytes text))
        if digits = l.digits.map Char.toLower then
          if !p.has "quiet" then say "OK"
          pure { found with right := found.right + 1 }
        else
          say "FAILED"
          pure { found with wrong := found.wrong + 1 }

/-- Checks what a list says of files. -/
def checkList (c : Call) (p : Parsed) (st : SummaryStyle) (name : String) : Program Bool := do
  let shown := if name = "-" then "'standard input'" else nameText name
  match ← slurpInput name with
  | .error e => do
    c.warn (nameText name ++ ": " ++ e.reason)
    pure false
  | .ok text => do
    let lines := (Line.ofText '\n' text).map (·.text)
    let (found, _) ← lines.foldlM (fun (found, n) line => do
      pure (← checkLine c p st shown n found line, n + 1)) (({} : Checked), 1)
    if found.listed = 0 then c.warn (shown ++ ": no properly formatted checksum lines found")
    else if !p.has "status" then
      let count (n : Nat) (one many : String) : Program Unit :=
        if n = 0 then pure ()
        else c.warn ("WARNING: " ++ toString n ++ " " ++ if n = 1 then one else many)
      count found.malformed "line is improperly formatted" "lines are improperly formatted"
      count found.unread "listed file could not be read" "listed files could not be read"
      count found.wrong "computed checksum did NOT match" "computed checksums did NOT match"
      if p.has "ignore" && found.right = 0 then c.warn (shown ++ ": no file was verified")
    pure (found.listed != 0 && found.wrong = 0 && found.unread = 0
      && (!p.has "ignore" || found.right != 0) && (!p.has "strict" || found.malformed = 0))

/-! ## Programs -/

/-- Writes a line about each file, or checks what each says. -/
def summarize (c : Call) (p : Parsed) (st : SummaryStyle) : Program Nat := do
  let mut fine := true
  for name in if p.operands.isEmpty then ["-"] else p.operands do
    if p.has "c" then
      let passed ← checkList c p st name
      fine := fine && passed
    else match ← slurpInput name with
      | .error e => do
        c.warn (nameText name ++ ": " ++ e.reason)
        fine := false
      | .ok text =>
        c.put (st.line name (hex (st.summary.digest st.size (ByteText.toBytes text))))
  pure (if fine then 0 else 1)

def summaryLong : List (String × Arity × String) :=
  [("check", .none, "c"), ("ignore-missing", .none, "ignore"), ("quiet", .none, "quiet"),
    ("status", .none, "status"), ("warn", .none, "w"), ("strict", .none, "strict"),
    ("tag", .none, "tag"), ("zero", .none, "z")]

/-- Refuses options that do not go together. -/
def reviewOptions (c : Call) (p : Parsed) : Program Unit := do
  if p.has "tag" && p.last? ["b", "t"] = some "t" then
    c.misuse "--tag does not support --text mode" 1
  if p.has "z" && p.has "c" then
    c.misuse "the --zero option is not supported when verifying checksums" 1
  if p.has "tag" && p.has "c" then
    c.misuse "the --tag option is meaningless when verifying checksums" 1
  if (p.has "b" || p.has "t") && p.has "c" then
    c.misuse "the --binary and --text options are meaningless when verifying checksums" 1
  for (key, name) in [("ignore", "ignore-missing"), ("status", "status"), ("w", "warn"),
      ("quiet", "quiet"), ("strict", "strict")] do
    if p.has key && !p.has "c" then
      c.misuse ("the --" ++ name ++ " option is meaningful only when verifying checksums") 1

/-- The number of bytes that the option about the length asks for. -/
def digestSize (c : Call) (p : Parsed) (s : Summary) : Program Nat :=
  match p.value? "l" with
  | none => pure s.size
  | some text => do
    let refuse {α : Type} (why : String) : Program α := do
      c.warn ("invalid length: " ++ inQuotes text)
      c.fail why 1
    match natural? text with
    | none => c.fail ("invalid length: " ++ inQuotes text) 1
    | some n =>
      if 8 * s.size < n then
        refuse ("maximum digest length for " ++ inQuotes s.title ++ " is "
          ++ toString (8 * s.size) ++ " bits")
      else if n % 8 != 0 then refuse "length is not a multiple of 8"
      else pure (if n = 0 then s.size else n / 8)

/-- The program that writes one kind of digest. -/
def digestSum (kind : String) : Utility := fun c => do
  let s := Summary.named kind
  let o : Options :=
    { short := (if s.hasLengths then "l:" else "") ++ "bctwz"
      long := [("binary", .none, "b"), ("text", .none, "t")] ++ summaryLong
        ++ if s.hasLengths then [("length", .required, "l")] else [] }
  let p ← o.of c 1
  let size ← digestSize c p s
  reviewOptions c p
  summarize c p
    { summary := s, size := size, isTagged := p.has "tag"
      isBinary := p.last? ["b", "t"] = some "b", endsInZero := p.has "z" }

/-- Writes a line that `line` makes of each file. -/
def eachSum (c : Call) (names : List String) (stop : Char) (line : Bytes → String) :
    Program Nat := do
  let put (name text : String) : Program Unit :=
    c.put ((line (ByteText.toBytes text) ++ if names.isEmpty then "" else " " ++ name).push stop)
  let (_, fine) ← c.eachFile names (fun name _ => nameText name) (fun () name text =>
    put name text) ()
  pure (if fine then 0 else 1)

/-- The number of blocks that bytes fill. -/
def blockCount (size : Nat) (message : Bytes) : Nat := (message.length + size - 1) / size

def rotatingLine (message : Bytes) : String :=
  let digits := toString (rotatingSum message)
  "".pushn '0' (5 - digits.length) ++ digits ++ " "
    ++ padLeft 5 (toString (blockCount 1024 message))

def plainLine (message : Bytes) : String :=
  toString (plainSum message) ++ " " ++ toString (blockCount 512 message)

def sum : Utility := fun c => do
  let p ← ({ short := "rs", long := [("sysv", .none, "s")] } : Options).of c 1
  eachSum c p.operands '\n' (if p.last? ["r", "s"] = some "s" then plainLine else rotatingLine)

def cksum : Utility := fun c => do
  let o : Options :=
    { short := "a:l:bctwz"
      long := [("algorithm", .required, "a"), ("length", .required, "l"), ("debug", .none, "debug"),
        ("untagged", .none, "untagged"), ("binary", .none, "b"), ("text", .none, "t")]
        ++ summaryLong }
  let p ← o.of c 1
  let names := ["bsd", "sysv", "crc"] ++ Summary.all.map (·.1) ++ ["sm3"]
  for (key, value) in p.options do
    if key = "a" && !names.contains value then
      c.wrongChoice "--algorithm" value (names.map ([·])) 1
  let kind := (p.value? "a").getD "crc"
  let stop := if p.has "z" then '\x00' else '\n'
  if p.has "l" && kind != "blake2b" then
    c.fail "--length is only supported with --algorithm=blake2b" 1
  if p.has "c" && (p.value? "a").isSome && (Summary.all.lookup kind).isNone then
    c.fail "--check is not supported with --algorithm=\x7bbsd,sysv,crc\x7d" 1
  match kind with
  | "bsd" => eachSum c p.operands stop rotatingLine
  | "sysv" => eachSum c p.operands stop plainLine
  | kind =>
    match Summary.all.lookup kind with
    | none =>
      reviewOptions c p
      if p.has "c" then summarize c p { summary := Summary.named "", size := 0, isAny := true }
      else eachSum c p.operands stop fun bs => toString (crc bs) ++ " " ++ toString bs.length
    | some s => do
      let size ← digestSize c p s
      let p' := { p with options := p.options.filter (·.1 != "tag") }
      reviewOptions c p'
      let tagged := p.last? ["tag", "untagged"] != some "untagged"
      summarize c p
        { summary := s, size := size, isTagged := tagged
          isBinary := p.last? ["b", "t"] = some "b", endsInZero := p.has "z" }

end HostFleet.Utility
