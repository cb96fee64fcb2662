import HostFleet.Text.Radix
import HostFleet.Utility.Options
import HostFleet.Utility.Stream

/-!
# Files in digits

`base64`, `base32` and `basenc` write files in digits that can be printed, and read them back.
-/

namespace HostFleet.Utility

open Machine

/-- A text in lines of a width. A width of zero makes no lines. -/
def inRows (width : Nat) (text : String) : String :=
  if width = 0 || text.isEmpty then text
  else
    let cs := text.toList
    let rows := (List.range ((cs.length + width - 1) / width)).foldl
      (fun (done, rest) _ => (String.ofList (rest.take width) :: done, rest.drop width))
      (([] : List String), cs)
    String.join (rows.1.reverse.map (·.push '\n'))

/-- The width that an option asks for. One that fits into no word is as good as none. -/
def rowWidth? (text : String) : Option Nat := do
  let text := if text.startsWith "+" then dropFront 1 text else text
  let n ← natural? text
  some (if n < Nat.pow 2 63 then n else 0)

/-- Writes a file in digits, or reads it back. -/
def recode (c : Call) (p : Parsed) (r : Radix) : Program Nat := do
  let width ← match p.value? "w" with
    | none => pure 76
    | some text =>
      match rowWidth? text with
      | some n => pure n
      | none => c.fail ("invalid wrap size: " ++ inQuotes text) 1
  match p.operands with
  | _ :: extra :: _ => c.misuse ("extra operand " ++ inQuotes extra) 1
  | names => do
    let name := names.headD "-"
    let opened ← if name = "-" then pure (.ok 0) else Program.openPath name { read := true }
    match opened with
    | .error e => c.fail (nameText name ++ ": " ++ e.reason) 1
    | .ok fd => do
      match ← Program.readAll fd Program.plenty [] with
      | .error e => c.fail ("read error: " ++ e.reason) 1
      | .ok text =>
        if p.has "d" then do
          let wanted (ch : Char) : Bool :=
            ch != '\n' && (!p.has "i" || (r.value? ch).isSome || (ch = '=' && r.fills))
          let cs := text.toList.filter wanted
          let (bytes, isFine) := r.decode (cs.length + 1) [] cs
          c.put (ByteText.ofBytes bytes)
          if isFine then pure 0 else c.fail "invalid input" 1
        else do
          c.put (inRows width (r.encode (ByteText.toBytes text)))
          pure 0

def recodeOptions : Options where
  short := "diw:"
  long := [("decode", .none, "d"), ("ignore-garbage", .none, "i"), ("wrap", .required, "w")]

def base64 : Utility := fun c => do recode c (← recodeOptions.of c 1) Radix.base64

def base32 : Utility := fun c => do recode c (← recodeOptions.of c 1) Radix.base32

/-- The radixes by name. -/
def radixes : List (String × Radix) :=
  [("base64", Radix.base64), ("base64url", Radix.base64Url), ("base32", Radix.base32),
    ("base32hex", Radix.base32Hex), ("base16", Radix.base16), ("base2msbf", Radix.base2 false),
    ("base2lsbf", Radix.base2 true)]

def basenc : Utility := fun c => do
  let o := { recodeOptions with
    long := recodeOptions.long ++ radixes.map fun (r : String × Radix) => (r.1, Arity.none, r.1) }
  let p ← o.of c 1
  match (p.last? (radixes.map (·.1))).bind (List.lookup · radixes) with
  | none => c.misuse "missing encoding type" 1
  | some r => recode c p r

end HostFleet.Utility
