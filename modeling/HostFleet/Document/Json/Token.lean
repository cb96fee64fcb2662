import HostFleet.Document.Basic
import HostFleet.Text.Utf8

/-!
# Words of JSON

The bytes of a JSON text, cut into brackets, separators, strings, numbers and the three names.
A string keeps its text only if it spells one: no half of a surrogate pair by itself, and
well-formed UTF-8.
-/

namespace HostFleet.Json

inductive Token where
  | openList
  | closeList
  | openRecord
  | closeRecord
  | colon
  | comma
  | text (s : Option String)
  | scalar (d : Document)

def isSpace (b : UInt8) : Bool :=
  b == 0x20 || b == 0x0a || b == 0x09 || b == 0x0d

def isDigit (b : UInt8) : Bool := 0x30 ≤ b && b ≤ 0x39

def hexDigit? (b : UInt8) : Option Nat :=
  if isDigit b then some (b.toNat - 0x30)
  else if 0x61 ≤ b && b ≤ 0x66 then some (b.toNat - 0x57)
  else if 0x41 ≤ b && b ≤ 0x46 then some (b.toNat - 0x37)
  else none

/-- The number that four hexadecimal digits at the front spell, and what follows. -/
def hexFour? : Bytes → Option (Nat × Bytes)
  | a :: b :: c :: d :: rest => do
    let a ← hexDigit? a
    let b ← hexDigit? b
    let c ← hexDigit? c
    let d ← hexDigit? d
    some (((a * 16 + b) * 16 + c) * 16 + d, rest)
  | _ => none

theorem length_hexFour? {bs rest : Bytes} {n : Nat} (h : hexFour? bs = some (n, rest)) :
    rest.length < bs.length := by
  unfold hexFour? at h
  split at h
  · simp only [Option.bind_eq_bind, Option.bind_eq_some_iff, Option.some.injEq,
      Prod.mk.injEq] at h
    obtain ⟨_, _, _, _, _, _, _, _, _, rfl⟩ := h
    simp
    omega
  · simp at h

/-- The second half of a surrogate pair at the front, and what follows. -/
def lowHalf? : Bytes → Option (Nat × Bytes)
  | 0x5c :: 0x75 :: rest =>
    match hexFour? rest with
    | some (n, rest) => if 0xdc00 ≤ n && n ≤ 0xdfff then some (n, rest) else none
    | none => none
  | _ => none

theorem length_lowHalf? {bs rest : Bytes} {n : Nat} (h : lowHalf? bs = some (n, rest)) :
    rest.length < bs.length := by
  unfold lowHalf? at h
  split at h
  · split at h
    · next hx =>
      have := length_hexFour? hx
      split at h <;> simp_all
      omega
    · simp at h
  · simp at h

/-- The bytes that the letter after a backslash stands for. -/
def shortEscape? (b : UInt8) : Option UInt8 :=
  if b == 0x22 || b == 0x5c || b == 0x2f then some b
  else if b == 0x62 then some 0x08
  else if b == 0x66 then some 0x0c
  else if b == 0x6e then some 0x0a
  else if b == 0x72 then some 0x0d
  else if b == 0x74 then some 0x09
  else none

/-- What a backslash and the bytes after it stand for, or nothing inside for a lone half of a
surrogate pair, and what follows. -/
def escape? : Bytes → Option (Option Bytes × Bytes)
  | 0x75 :: rest =>
    match hexFour? rest with
    | none => none
    | some (n, rest) =>
      if 0xd800 ≤ n && n ≤ 0xdbff then
        match lowHalf? rest with
        | some (m, rest) =>
          some (some (String.utf8EncodeChar
            (Char.ofNat (0x10000 + (n - 0xd800) * 0x400 + (m - 0xdc00)))), rest)
        | none => some (none, rest)
      else if 0xdc00 ≤ n && n ≤ 0xdfff then some (none, rest)
      else some (some (String.utf8EncodeChar (Char.ofNat n)), rest)
  | b :: rest => (shortEscape? b).map fun c => (some [c], rest)
  | [] => none

theorem length_escape? {bs rest : Bytes} {out : Option Bytes}
    (h : escape? bs = some (out, rest)) : rest.length < bs.length := by
  unfold escape? at h
  split at h
  · split at h
    · simp at h
    · next hx =>
      have := length_hexFour? hx
      split at h
      · split at h
        · next hl =>
          have := length_lowHalf? hl
          simp_all
          omega
        · simp_all
          omega
      · split at h <;> simp_all <;> omega
  · simp only [Option.map_eq_some_iff, Prod.mk.injEq] at h
    obtain ⟨_, _, _, rfl⟩ := h
    simp
  · simp at h

/-- Reads a string after its opening quote: its bytes, nothing inside once a part of it spells
none, and what follows the closing quote. Control characters may not stand in a string. -/
def stringBody? (bs : Bytes) : Option (Option Bytes × Bytes) :=
  match bs with
  | [] => none
  | b :: rest =>
    if b == 0x22 then some (some [], rest)
    else if b == 0x5c then
      match h : escape? rest with
      | none => none
      | some (piece, after) =>
        have : after.length < rest.length := length_escape? h
        (stringBody? after).map fun (out, tail) =>
          (do some ((← piece) ++ (← out)), tail)
    else if b < 0x20 then none
    else (stringBody? rest).map fun (out, tail) => (out.map (b :: ·), tail)
termination_by bs.length
decreasing_by
  · simp only [List.length_cons]
    omega
  · simp

theorem length_stringBody? {bs rest : Bytes} {out : Option Bytes}
    (h : stringBody? bs = some (out, rest)) : rest.length < bs.length := by
  fun_induction stringBody? bs generalizing out rest with
  | case1 => simp at h
  | case2 => simp_all
  | case3 => simp at h
  | case4 b tail hq hb piece after he hlt ih =>
    simp only [Option.map_eq_some_iff, Prod.exists, Prod.mk.injEq] at h
    obtain ⟨o, t, ht, _, rfl⟩ := h
    have := ih ht
    simp
    omega
  | case5 => simp at h
  | case6 b tail hq hb hc ih =>
    simp only [Option.map_eq_some_iff, Prod.exists, Prod.mk.injEq] at h
    obtain ⟨o, t, ht, _, rfl⟩ := h
    have := ih ht
    simp
    omega

/-- The bytes that may stand in a number. -/
def isNumeric (b : UInt8) : Bool :=
  isDigit b || b == 0x2d || b == 0x2b || b == 0x2e || b == 0x65 || b == 0x45

def digitsValue (ds : Bytes) : Nat :=
  ds.foldl (fun n d => n * 10 + (d.toNat - 0x30)) 0

/-- The digits at the front and the bytes after them; at least one digit. -/
def digits? (bs : Bytes) : Option (Bytes × Bytes) :=
  match bs.takeWhile isDigit with
  | [] => none
  | ds => some (ds, bs.dropWhile isDigit)

/-- The whole part of a number: one zero, or digits that do not begin with one. -/
def wholePart? (bs : Bytes) : Option (Bytes × Bytes) := do
  let (ds, rest) ← digits? bs
  if ds.length > 1 && ds.head? == some 0x30 then none else some (ds, rest)

/-- What follows a fraction, or the bytes themselves if none stands there. -/
def skipFraction? : Bytes → Option Bytes
  | 0x2e :: rest => (digits? rest).map Prod.snd
  | bs => some bs

def skipExponent? : Bytes → Option Bytes
  | b :: rest =>
    if b == 0x65 || b == 0x45 then
      match rest with
      | 0x2b :: rest => (digits? rest).map Prod.snd
      | 0x2d :: rest => (digits? rest).map Prod.snd
      | rest => (digits? rest).map Prod.snd
    else some (b :: rest)
  | [] => some []

/-- The number that a run of numeric bytes spells. A negative zero is not an integer. -/
def number? (bs : Bytes) : Option Document := do
  let (negative, unsigned) := match bs with
    | 0x2d :: rest => (true, rest)
    | _ => (false, bs)
  let (whole, rest) ← wholePart? unsigned
  let afterFraction ← skipFraction? rest
  let afterExponent ← skipExponent? afterFraction
  if !afterExponent.isEmpty then none
  else if !rest.isEmpty || (negative && digitsValue whole == 0) then
    some (.decimal (Utf8.decodeLossy bs))
  else if negative then some (.int (-(digitsValue whole : Int)))
  else some (.int (digitsValue whole))

def isLetter (b : UInt8) : Bool := 0x61 ≤ b && b ≤ 0x7a

def name? (bs : Bytes) : Option Document :=
  if bs = Utf8.encode "null" then some .null
  else if bs = Utf8.encode "true" then some (.bool true)
  else if bs = Utf8.encode "false" then some (.bool false)
  else none

theorem length_dropWhile_le (p : UInt8 → Bool) (bs : Bytes) :
    (bs.dropWhile p).length ≤ bs.length := (List.dropWhile_suffix p).length_le

/-- The token that begins with `b`, and what follows it. -/
def token? (b : UInt8) (rest : Bytes) : Option (Token × Bytes) :=
  if b == 0x5b then some (.openList, rest)
  else if b == 0x5d then some (.closeList, rest)
  else if b == 0x7b then some (.openRecord, rest)
  else if b == 0x7d then some (.closeRecord, rest)
  else if b == 0x3a then some (.colon, rest)
  else if b == 0x2c then some (.comma, rest)
  else if b == 0x22 then
    (stringBody? rest).map fun (out, tail) => (.text (out.bind Utf8.decode?), tail)
  else if isDigit b || b == 0x2d then
    (number? (b :: rest.takeWhile isNumeric)).map fun d =>
      (.scalar d, rest.dropWhile isNumeric)
  else if isLetter b then
    (name? (b :: rest.takeWhile isLetter)).map fun d => (.scalar d, rest.dropWhile isLetter)
  else none

theorem length_token? {b : UInt8} {rest tail : Bytes} {t : Token}
    (h : token? b rest = some (t, tail)) : tail.length ≤ rest.length := by
  unfold token? at h
  repeat' split at h
  all_goals try simp only [Option.some.injEq, Prod.mk.injEq] at h
  all_goals try (obtain ⟨_, rfl⟩ := h; exact Nat.le_refl _)
  · simp only [Option.map_eq_some_iff, Prod.exists, Prod.mk.injEq] at h
    obtain ⟨_, _, hs, _, rfl⟩ := h
    exact Nat.le_of_lt (length_stringBody? hs)
  · simp only [Option.map_eq_some_iff, Prod.mk.injEq] at h
    obtain ⟨_, _, _, rfl⟩ := h
    exact length_dropWhile_le _ _
  · simp only [Option.map_eq_some_iff, Prod.mk.injEq] at h
    obtain ⟨_, _, _, rfl⟩ := h
    exact length_dropWhile_le _ _
  · simp at h

/-- The tokens of a text, if it is made of tokens and white space alone. -/
def tokens? (bs : Bytes) : Option (List Token) :=
  match bs with
  | [] => some []
  | b :: rest =>
    if isSpace b then tokens? rest
    else match h : token? b rest with
      | none => none
      | some (t, tail) =>
        have : tail.length ≤ rest.length := length_token? h
        (tokens? tail).map (t :: ·)
termination_by bs.length
decreasing_by
  · simp
  · simp only [List.length_cons]
    omega

end HostFleet.Json
