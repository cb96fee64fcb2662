import HostFleet.Number.Floating
import HostFleet.Utility.Excerpt

/-!
# Block by block

`dd` copies a file in blocks of chosen sizes and changes what it copies on the way.
-/

namespace HostFleet.Utility

open Machine

/-- What is changed on the way, and how files are treated. -/
structure Transfer where
  source : Option String := none
  target : Option String := none
  readSize : Nat := 512
  writeSize : Nat := 512
  /-- Whether blocks are written as they were read. -/
  isDirect : Bool := false
  lineSize : Nat := 0
  skip : Nat := 0
  skipsBytes : Bool := false
  seek : Nat := 0
  seeksBytes : Bool := false
  count : Option Nat := none
  countsBytes : Bool := false
  conversions : List String := []
  flags : List String := []
  /-- How much is said in the end. -/
  status : String := "default"

namespace Transfer

def has (t : Transfer) (conversion : String) : Bool := t.conversions.contains conversion

def conversionNames : List String :=
  ["block", "unblock", "lcase", "ucase", "sparse", "swab", "sync", "excl", "nocreat", "notrunc",
    "noerror", "fdatasync", "fsync"]

def flagNames : List String :=
  ["append", "binary", "direct", "directory", "dsync", "noatime", "nocache", "noctty", "nofollow",
    "nonblock", "sync", "text", "fullblock", "count_bytes", "skip_bytes", "seek_bytes"]

/-- A number with letters that multiply it, or a product of such numbers. A final `B` says that
bytes are counted. -/
def size? (fuel : Nat) (cs : List Char) : Option (Nat × Bool) :=
  match fuel with
  | 0 => none
  | fuel + 1 =>
    let ds := cs.takeWhile Char.isDigit
    let rest := cs.drop ds.length
    let unit := rest.takeWhile (· != 'x')
    let (unit, isBytes) := match unit.reverse with
      | 'B' :: front => if front.isEmpty then (front.reverse, true) else (unit, false)
      | _ => (unit, false)
    let factor := match unit with
      | ['c'] => some 1
      | ['w'] => some 2
      | unit => multiplier? unit
    match factor with
    | none => none
    | some factor =>
      if ds.isEmpty then none
      else
        let n := ds.foldl (fun n c => n * 10 + (c.toNat - 48)) 0 * factor
        match rest.dropWhile (· != 'x') with
        | [] => some (n, isBytes)
        | _ :: more => (size? fuel more).map fun (m, b) => (n * m, b)

def number (c : Call) (text : String) : Program (Nat × Bool) :=
  match size? (text.length + 1) text.toList with
  | none => c.fail ("invalid number: " ++ inQuotes text) 1
  | some (n, b) =>
    if n < Nat.pow 2 63 then pure (n, b)
    else c.fail ("invalid number: " ++ inQuotes text
      ++ ": Value too large for defined data type") 1

/-- A list of names between commas, of which each has to be known. -/
def names (c : Call) (what : String) (known : List String) (text : String) :
    Program (List String) := do
  let parts := text.splitOn ","
  for part in parts do
    if !known.contains part then c.misuse ("invalid " ++ what ++ ": " ++ inQuotes part) 1
  pure parts

/-- Reads the operands. -/
def ofOperands (c : Call) (t : Transfer) : List String → Program Transfer
  | [] => pure t
  | arg :: rest => do
    let size (text : String) : Program Nat := do
      let (n, _) ← number c text
      if n = 0 then c.fail ("invalid number: " ++ inQuotes text) 1 else pure n
    let unknown : Program Transfer := c.misuse ("unrecognized operand " ++ inQuotes arg) 1
    let t ← match splitAssignment arg with
      | (_, none) => unknown
      | (key, some value) =>
        match key with
        | "if" => pure { t with source := some value }
        | "of" => pure { t with target := some value }
        | "ibs" => do pure { t with readSize := ← size value }
        | "obs" => do pure { t with writeSize := ← size value }
        | "bs" => do
          let n ← size value
          pure { t with readSize := n, writeSize := n, isDirect := true }
        | "cbs" => do pure { t with lineSize := ← size value }
        | "skip" => skipOf t value
        | "iseek" => skipOf t value
        | "seek" => seekOf t value
        | "oseek" => seekOf t value
        | "count" => do
          let (n, b) ← number c value
          pure { t with count := some n, countsBytes := b }
        | "conv" => do
          let found ← names c "conversion" conversionNames value
          pure { t with conversions := t.conversions ++ found }
        | "iflag" => do pure { t with flags := t.flags ++ (← names c "input flag" flagNames value) }
        | "oflag" => do
          let more ← names c "output flag" flagNames value
          pure { t with flags := t.flags ++ more.filter (["append", "seek_bytes"].contains ·) }
        | "status" =>
          if ["none", "noxfer", "progress"].contains value then pure { t with status := value }
          else c.misuse ("invalid status level: " ++ inQuotes value) 1
        | _ => unknown
    ofOperands c t rest
where
  skipOf (t : Transfer) (value : String) : Program Transfer := do
    let (n, b) ← number c value
    pure { t with skip := n, skipsBytes := b }
  seekOf (t : Transfer) (value : String) : Program Transfer := do
    let (n, b) ← number c value
    pure { t with seek := n, seeksBytes := b }

/-- The order of the operands decides less than what they say together. -/
def settled (t : Transfer) (args : List String) : Transfer :=
  let bs := args.any (·.startsWith "bs=")
  let changes := ["block", "unblock", "lcase", "ucase", "swab"].any t.has
  { t with
    isDirect := bs && !changes
    skipsBytes := t.skipsBytes || t.flags.contains "skip_bytes"
    seeksBytes := t.seeksBytes || t.flags.contains "seek_bytes"
    countsBytes := t.countsBytes || t.flags.contains "count_bytes" }

end Transfer

/-- How far a copy has come. -/
structure Progress where
  wholeIn : Nat := 0
  partsIn : Nat := 0
  wholeOut : Nat := 0
  partsOut : Nat := 0
  cutLines : Nat := 0
  bytes : Nat := 0
  /-- What is not written yet. -/
  held : String := ""
  /-- The byte that waits for the one to change places with. -/
  odd : Option Char := none
  column : Nat := 0
  /-- Blanks that are written if something follows them on their line. -/
  blanks : Nat := 0
  /-- Whether all went well up to here. -/
  isFine : Bool := true

namespace Progress

/-- Bytes that change places in pairs. -/
def swapped : List Char → List Char
  | a :: b :: rest => b :: a :: swapped rest
  | rest => rest

/-- Lines as blocks of equal size. -/
def blocked (size : Nat) (p : Progress) (cs : List Char) : List Char × Progress :=
  let (done, p) := cs.foldl (fun (done, p) c =>
    if c = '\n' then
      (List.replicate (size - p.column) ' ' ++ done, { p with column := 0 })
    else
      let p' := { p with column := p.column + 1 }
      if p.column < size then (c :: done, p')
      else (done, if p.column = size then { p' with cutLines := p.cutLines + 1 } else p')) ([], p)
  (done.reverse, p)

/-- Blocks of equal size as lines. -/
def unblocked (size : Nat) (p : Progress) (cs : List Char) : List Char × Progress :=
  let (done, p) := cs.foldl (fun (done, p) c =>
    let (done, p) := if size ≤ p.column then
        ('\n' :: done, { p with column := 0, blanks := 0 }) else (done, p)
    let p := { p with column := p.column + 1 }
    if c = ' ' then (done, { p with blanks := p.blanks + 1 })
    else (c :: List.replicate p.blanks ' ' ++ done, { p with blanks := 0 })) ([], p)
  (done.reverse, p)

/-- A block after the changes on the way. -/
def changed (t : Transfer) (p : Progress) (cs : List Char) : List Char × Progress :=
  let cs := if t.has "lcase" then cs.map Char.toLower
    else if t.has "ucase" then cs.map Char.toUpper else cs
  let (cs, p) :=
    if !t.has "swab" then (cs, p)
    else
      let cs := p.odd.toList ++ cs
      if cs.length % 2 = 0 then (swapped cs, { p with odd := none })
      else (swapped cs.dropLast, { p with odd := cs.getLast? })
  if t.lineSize = 0 then (cs, p)
  else if t.has "block" then blocked t.lineSize p cs
  else if t.has "unblock" then unblocked t.lineSize p cs
  else (cs, p)

/-- What is left to be written in the end. -/
def leftover (t : Transfer) (p : Progress) : List Char :=
  let odd := p.odd.toList
  if t.lineSize = 0 || p.column = 0 then odd
  else if t.has "block" then odd ++ List.replicate (t.lineSize - p.column) ' '
  else if t.has "unblock" then odd ++ ['\n']
  else odd

def targetName (t : Transfer) : String :=
  match t.target with
  | some name => inQuotes name
  | none => "'standard output'"

/-- Writes one block. -/
def emit (c : Call) (t : Transfer) (fd : Nat) (p : Progress) (text : String) :
    Program Progress := do
  if text.isEmpty || !p.isFine then pure p
  else match ← Program.write fd text with
    | .ok () =>
      let p := { p with bytes := p.bytes + text.length }
      pure (if text.length = t.writeSize then { p with wholeOut := p.wholeOut + 1 }
        else { p with partsOut := p.partsOut + 1 })
    | .error e => do
      c.warn ("error writing " ++ targetName t ++ ": " ++ e.reason)
      pure { p with isFine := false }

/-- Writes whole blocks as long as there are any. -/
def emitWhole (c : Call) (t : Transfer) (fd : Nat) (fuel : Nat) (p : Progress) : Program Progress :=
  match fuel with
  | 0 => pure p
  | fuel + 1 =>
    if p.held.length < t.writeSize || !p.isFine then pure p
    else do
      let cs := p.held.toList
      let p := { p with held := String.ofList (cs.drop t.writeSize) }
      emitWhole c t fd fuel (← emit c t fd p (String.ofList (cs.take t.writeSize)))

/-- Reads a block; several times if it has to be whole. -/
def readBlock (t : Transfer) (fd fuel size : Nat) (done : String) :
    Program (Except OsError String) :=
  match fuel with
  | 0 => pure (.ok done)
  | fuel + 1 => do
    match ← Program.readAtMost fd (size - done.length) with
    | .error e => pure (.error e)
    | .ok text =>
      let done := done ++ text
      if text.isEmpty || done.length = size || !t.flags.contains "fullblock" then pure (.ok done)
      else readBlock t fd fuel size done

/-- Copies block by block. -/
def copyBlocks (c : Call) (t : Transfer) (input output fuel : Nat) (p : Progress) :
    Program Progress :=
  match fuel with
  | 0 => pure p
  | fuel + 1 => do
    let records := p.wholeIn + p.partsIn
    let (wanted, rest) := match t.count with
      | none => (records + 1, 0)
      | some n => if t.countsBytes then (n / t.readSize, n % t.readSize) else (n, 0)
    let size := if records < wanted then t.readSize else if records = wanted then rest else 0
    if size = 0 || !p.isFine then pure p
    else match ← readBlock t input Program.plenty size "" with
      | .error e => do
        c.warn ("error reading " ++ (match t.source with
          | some name => inQuotes name
          | none => "'standard input'") ++ ": " ++ e.reason)
        pure { p with isFine := false }
      | .ok "" => pure p
      | .ok text => do
        let isWhole := text.length = t.readSize
        let p := if isWhole then { p with wholeIn := p.wholeIn + 1 }
          else { p with partsIn := p.partsIn + 1 }
        let filler := if t.has "block" || t.has "unblock" then ' ' else '\x00'
        let text := if t.has "sync" then text.pushn filler (t.readSize - text.length) else text
        if t.isDirect then copyBlocks c t input output fuel (← emit c t output p text)
        else
          let (cs, p) := changed t p text.toList
          let p := { p with held := p.held ++ String.ofList cs }
          copyBlocks c t input output fuel (← emitWhole c t output Program.plenty p)

/-- A size in the largest unit that fits, rounded. -/
def sizeText (base : Nat) (bytes : Nat) : String :=
  let units := if base = 1000 then ["B", "kB", "MB", "GB", "TB", "PB"]
    else ["B", "KiB", "MiB", "GiB", "TiB", "PiB"]
  let power := ((List.range 5).filter fun i => Nat.pow base (i + 1) ≤ bytes).length
  let unit := units.getD power ""
  let tenths := Floating.roundDiv (10 * bytes) (Nat.pow base power)
  if power = 0 then toString bytes ++ " B"
  else if tenths < 100 then toString (tenths / 10) ++ "." ++ toString (tenths % 10) ++ " " ++ unit
  else toString (Floating.roundDiv bytes (Nat.pow base power)) ++ " " ++ unit

/-- What is said in the end, with the time the copy took. -/
def report (t : Transfer) (p : Progress) (time : Nat) : String :=
  let records := s!"{p.wholeIn}+{p.partsIn} records in\n{p.wholeOut}+{p.partsOut} records out\n"
  let cut := if p.cutLines = 0 then ""
    else s!"{p.cutLines} truncated record" ++ (if p.cutLines = 1 then "\n" else "s\n")
  let n := toString p.bytes
  let amount := if p.bytes = 1 then "1 byte"
    else if p.bytes < 1000 then n ++ " bytes"
    else if p.bytes < 1024 then n ++ " bytes (" ++ sizeText 1000 p.bytes ++ ")"
    else n ++ " bytes (" ++ sizeText 1000 p.bytes ++ ", " ++ sizeText 1024 p.bytes ++ ")"
  let time := max time 1
  let seconds := String.ofList
    ((Floating.ofRatio Floating.double false time 1000000).magnitude 'g' none false 1)
  records ++ cut ++ (if t.status = "noxfer" then ""
    else amount ++ " copied, " ++ seconds ++ " s, "
      ++ sizeText 1000 (p.bytes * 1000000 / time) ++ "/s\n")

end Progress

/-- Reads and forgets so many bytes, and tells how many were missing. -/
def skipBytes (fd fuel left : Nat) : Program Nat :=
  match fuel with
  | 0 => pure left
  | fuel + 1 => do
    if left = 0 then pure 0
    else match ← Program.readAtMost fd (min left 65536) with
      | .error _ => pure left
      | .ok "" => pure left
      | .ok text => skipBytes fd fuel (left - text.length)

def dd : Utility := fun c => do
  let begun ← Program.now
  match c.args.find? fun arg => arg.startsWith "-" && arg != "--" with
  | some arg => c.misuse ("unrecognized option " ++ inQuotes arg) 1
  | none => do
    let args := c.args.filter (· != "--")
    let t := (← Transfer.ofOperands c {} args).settled args
    if t.has "lcase" && t.has "ucase" then c.fail "cannot combine lcase and ucase" 1
    if t.has "block" && t.has "unblock" then c.fail "cannot combine block and unblock" 1
    if t.has "excl" && t.has "nocreat" then c.fail "cannot combine excl and nocreat" 1
    let opening (name : String) (m : Kernel.OpenMode) : Program Nat := do
      match ← Program.openPath name m with
      | .ok fd => pure fd
      | .error e => c.fail ("failed to open " ++ inQuotes name ++ ": " ++ e.reason) 1
    let input ← match t.source with
      | some name => opening name { read := true }
      | none => pure 0
    let seek := if t.seeksBytes then t.seek else t.seek * t.writeSize
    let output ← match t.target with
      | some name => opening name {
          write := true, create := !t.has "nocreat", fresh := t.has "excl"
          truncate := !t.has "notrunc" && seek = 0, append := t.flags.contains "append" }
      | none => pure 1
    let finish (p : Progress) : Program Nat := do
      if t.status != "none" then Program.tell 2 (p.report t ((← Program.now) - begun))
      pure (if p.isFine then 0 else 1)
    let missing ← skipBytes input Program.plenty
      (if t.skipsBytes then t.skip else t.skip * t.readSize)
    if missing != 0 && t.status != "none" then
      c.warn ((match t.source with
        | some name => inQuotes name
        | none => "'standard input'") ++ ": cannot skip to specified offset")
    let placed ← if seek = 0 then pure (Except.ok ()) else
      Program.access fun pid k => match k.seek pid output seek with
        | .ok k => (.ok (), if t.has "notrunc" then k else k.resize pid output seek)
        | .error e => (.error e, k)
    match placed with
    | .error e => do
      c.warn (Progress.targetName t ++ ": cannot seek: " ++ e.reason)
      finish { isFine := false }
    | .ok () => do
      let p ← Progress.copyBlocks c t input output Program.plenty {}
      let rest := p.held ++ String.ofList (p.leftover t)
      let p ← Progress.emitWhole c t output Program.plenty { p with held := rest }
      finish (← p.emit c t output p.held)

end HostFleet.Utility
