import HostFleet.Utility.Child
import HostFleet.Utility.Excerpt

/-!
# Files in pieces

`split` writes a file in pieces of so many lines or bytes, or in so many pieces, each in a file of
its own.
-/

namespace HostFleet.Utility

open Machine

/-- Where a file is cut. -/
inductive Cut where
  | lines (n : Nat)
  | bytes (n : Nat)
  /-- Whole lines, as many as fit into so many bytes. -/
  | wholeLines (n : Nat)
  /-- So many pieces of equal size, or only one of them. -/
  | parts (only : Option Nat) (n : Nat)
  | lineParts (only : Option Nat) (n : Nat)
  /-- Lines dealt out in turn. -/
  | turns (only : Option Nat) (n : Nat)

namespace Cut

/-- A list in pieces of so many elements. -/
def inPieces {α : Type} (n fuel : Nat) (xs : List α) : List (List α) :=
  match fuel, xs with
  | 0, _ => []
  | _, [] => []
  | fuel + 1, xs => xs.take n :: inPieces n fuel (xs.drop n)

/-- Lines in pieces of at most so many bytes. Longer lines are cut. -/
def fitting (n : Nat) (lines : List String) : List String :=
  let (done, held) := lines.foldl (fun ((done, held) : List String × String) line =>
    if held.length + line.length ≤ n then (done, held ++ line)
    else
      let done := if held.isEmpty then done else held :: done
      let parts := (inPieces n (line.length + 1) line.toList).map String.ofList
      (parts.dropLast.reverse ++ done, parts.getLastD "")) ([], "")
  (if held.isEmpty then done else held :: done).reverse

/-- The number of bytes in each of so many pieces. -/
def sizes (total n : Nat) : List Nat :=
  (List.range n).map fun i => total / n + if i < total % n then 1 else 0

/-- Pieces of these sizes. -/
def bySizes (cs : List Char) : List Nat → List String
  | [] => []
  | n :: ns => String.ofList (cs.take n) :: bySizes (cs.drop n) ns

/-- Each line goes to the piece in which it begins. -/
def byStart (total n : Nat) (lines : List String) : List String :=
  let bounds := (sizes total n).foldl (fun (ends : List Nat) size =>
    (ends.headD 0 + size) :: ends) [] |>.reverse
  let starts := (lines.foldl (fun ((done, at') : List (Nat × String) × Nat) line =>
    ((at', line) :: done, at' + line.length)) ([], 0)).1.reverse
  (List.range n).map fun i =>
    let low := if i = 0 then 0 else bounds.getD (i - 1) 0
    let high := bounds.getD i 0
    String.join ((starts.filter fun (s, _) => low ≤ s && s < high).map (·.2))

/-- The pieces of a text. -/
def pieces (cut : Cut) (stop : Char) (text : String) : List String :=
  let lines := (Line.ofText stop text).map (Line.whole stop)
  match cut with
  | .lines n => (inPieces n (lines.length + 1) lines).map String.join
  | .bytes n => (inPieces n (text.length + 1) text.toList).map String.ofList
  | .wholeLines n => fitting n lines
  | .parts _ n => bySizes text.toList (sizes text.length n)
  | .lineParts _ n => byStart text.length n lines
  | .turns _ n => (List.range n).map fun i =>
    String.join ((lines.zipIdx.filter fun (_, j) => j % n = i).map (·.1))

/-- The one piece that is wanted. -/
def only? : Cut → Option Nat
  | .parts only _ | .lineParts only _ | .turns only _ => only
  | _ => none

/-- The number of pieces, if it is known. -/
def count? : Cut → Option Nat
  | .parts _ n | .lineParts _ n | .turns _ n => some n
  | _ => none

/-- Reads in how many pieces a file is to be cut. -/
def ofCount (c : Call) (text : String) : Program Cut := do
  let (make, rest) : (Option Nat → Nat → Cut) × String :=
    if text.startsWith "l/" then (lineParts, dropFront 2 text)
    else if text.startsWith "r/" then (turns, dropFront 2 text)
    else (parts, text)
  let wrong {α : Type} (shown : String) : Program α :=
    c.fail ("invalid number of chunks: " ++ inQuotes shown) 1
  match rest.splitOn "/" with
  | [n] =>
    match size? n with
    | some n => if n = 0 then wrong rest else pure (make none n)
    | none => wrong rest
  | k :: more =>
    let total := "/".intercalate more
    match size? total with
    | some n =>
      if n = 0 then wrong total
      else match size? k with
        | some i =>
          if i = 0 || n < i then c.fail ("invalid chunk number: " ++ inQuotes k) 1
          else pure (make (some (i - 1)) n)
        | none => c.fail ("invalid chunk number: " ++ inQuotes k) 1
    | none => wrong total
  | [] => wrong rest

end Cut

/-- How the files of the pieces are named. -/
structure PieceNames where
  start : String := "x"
  digits : String := "abcdefghijklmnopqrstuvwxyz"
  /-- How many digits there are; without a number they become more as they are needed. -/
  width : Option Nat := none
  first : Nat := 0
  tail : String := ""

namespace PieceNames

/-- A number in digits, so many of them. -/
def spelled (digits : Array Char) (width n : Nat) : String :=
  let b := digits.size
  String.ofList ((List.range width).reverse.map fun i => digits.getD (n / Nat.pow b i % b) '0')

/-- The digits of a number when they become more: the last digit in front says that more follow. -/
def widening (digits : Array Char) (fuel : Nat) (lead : String) (width n : Nat) : String :=
  match fuel with
  | 0 => lead
  | fuel + 1 =>
    let b := digits.size
    let room := Nat.pow b width - Nat.pow b (width - 1)
    if n < room then lead ++ spelled digits width n
    else widening digits fuel (lead.push (digits.getD (b - 1) 'z')) (width + 1) (n - room)

/-- The name of the piece of a number, as long as there are names. -/
def name? (p : PieceNames) (n : Nat) : Option String :=
  let digits := p.digits.toList.toArray
  match p.width with
  | some w =>
    if p.first + n < Nat.pow digits.size w then
      some (p.start ++ spelled digits w (p.first + n) ++ p.tail)
    else none
  | none => some (p.start ++ widening digits 20 "" 2 n ++ p.tail)

end PieceNames

def splitOptions : Options where
  short := "0123456789C:a:b:del:n:t:ux"
  long := [("bytes", .required, "b"), ("lines", .required, "l"), ("line-bytes", .required, "C"),
    ("number", .required, "n"), ("elide-empty-files", .none, "e"), ("unbuffered", .none, "u"),
    ("suffix-length", .required, "a"), ("additional-suffix", .required, "tail"),
    ("numeric-suffixes", .optional, "d"), ("hex-suffixes", .optional, "x"),
    ("filter", .required, "filter"), ("verbose", .none, "verbose"),
    ("separator", .required, "t")]

/-- Where the options say that a file is cut. -/
def cutOf (c : Call) (p : Parsed) : Program Cut := do
  let old := String.join ((p.options.map (·.1)).filter fun k => (natural? k).isSome)
  let ways := (if old.isEmpty then [] else [("l", old)])
    ++ p.options.filter fun o => ["b", "l", "C", "n"].contains o.1
  let amount (what text : String) : Program Nat :=
    match size? text with
    | some n =>
      if n = 0 then c.fail ("invalid number of " ++ what ++ ": " ++ inQuotes text) 1 else pure n
    | none => c.fail ("invalid number of " ++ what ++ ": " ++ inQuotes text) 1
  let found ← ways.mapM fun (key, text) => match key with
    | "l" => do pure (Cut.lines (← amount "lines" text))
    | "b" => do pure (Cut.bytes (← amount "bytes" text))
    | "C" => do pure (Cut.wholeLines (← amount "lines" text))
    | _ => Cut.ofCount c text
  match found with
  | [] => pure (.lines 1000)
  | [cut] => pure cut
  | _ => c.misuse "cannot split in more than one way" 1

/-- The names that the options ask for. -/
def namesOf (c : Call) (p : Parsed) (cut : Cut) (start : String) : Program PieceNames := do
  let width ← match p.value? "a" with
    | none => pure none
    | some text =>
      match natural? text with
      | some 0 => pure none
      | some n => pure (some n)
      | none => c.fail ("invalid suffix length: " ++ inQuotes text) 1
  let kind := p.last? ["d", "x"]
  let digits := match kind with
    | some "d" => "0123456789"
    | some _ => "0123456789abcdef"
    | none => "abcdefghijklmnopqrstuvwxyz"
  let from' := kind.bind p.value?
  let first ← match from' with
    | none => pure 0
    | some "" => pure 0
    | some text =>
      match natural? text with
      | some n => pure n
      | none => c.misuse ("invalid start value for "
          ++ (if kind = some "d" then "numerical" else "hexadecimal") ++ " suffix: "
          ++ inQuotes text) 1
  let tail := (p.value? "tail").getD ""
  if tail.contains '/' then
    c.misuse ("invalid suffix " ++ inQuotes tail ++ ", contains directory separator") 1
  let base := digits.length
  let needed := (cut.count?.map fun n =>
    ((List.range 64).find? fun w => n ≤ Nat.pow base w).getD 64).getD 0
  let isFixed := first != 0 || cut.count?.isSome
  let width := match width with
    | some w => some w
    | none => if isFixed then some (max 2 needed) else none
  pure { start := start, digits := digits, width := width, first := first, tail := tail }

def split : Utility := fun c => do
  let p ← splitOptions.of c 1
  let stop ← match p.value? "t" with
    | none => pure '\n'
    | some "\x5c0" => pure '\x00'
    | some text =>
      match text.toList with
      | [ch] => pure ch
      | [] => c.fail "empty record separator" 1
      | _ => c.fail ("multi-character separator " ++ inQuotes text) 1
  let cut ← cutOf c p
  let (input, start) ← match p.operands with
    | [] => pure ("-", "x")
    | [a] => pure (a, "x")
    | [a, b] => pure (a, b)
    | _ :: _ :: extra :: _ => c.misuse ("extra operand " ++ inQuotes extra) 1
  let names ← namesOf c p cut start
  let text ← match ← Call.slurp input with
    | .ok text => pure text
    | .error e => c.fail (if e = .isDirectory then nameText input ++ ": read error: " ++ e.reason
        else "cannot open " ++ inQuotes input ++ " for reading: " ++ e.reason) 1
  let pieces := cut.pieces stop text
  match cut.only? with
  | some i => do
    c.put (pieces.getD i "")
    pure 0
  | none => do
    let pieces := if p.has "e" then pieces.filter (!·.isEmpty) else pieces
    for (piece, i) in pieces.zipIdx do
      match names.name? i with
      | none => c.fail "output file suffixes exhausted" 1
      | some name =>
        match p.value? "filter" with
        | some command => do
          let vars := ("FILE", name) :: c.vars.filter (·.1 != "FILE")
          let (fd, child) ← { c with vars := vars }.writeTo [] command
          discard (Program.write fd piece)
          Program.close fd
          match ← Program.waitFor child with
          | some (.exited 0) => pure ()
          | some (.exited n) =>
            c.warn ("with FILE=" ++ nameText name ++ ", exit " ++ toString n ++ " from command: "
              ++ command)
            Program.exit n
          | _ => pure ()
        | none => do
          if p.has "verbose" then c.put ("creating file " ++ inQuotes name ++ "\n")
          match ← Program.openPath name { write := true, create := true, truncate := true } with
          | .error e => c.fail (nameText name ++ ": " ++ e.reason) 1
          | .ok fd => do
            match ← Program.write fd piece with
            | .ok () => pure ()
            | .error e => c.fail (nameText name ++ ": " ++ e.reason) 1
            Program.close fd
    pure 0

end HostFleet.Utility
