import HostFleet.Names

/-!
# UTF-8

`encode` writes text as bytes. `decode?` reads bytes that are well formed throughout, and
`decodeLossy` reads any bytes, with U+FFFD for each longest piece that starts no character.
-/

namespace HostFleet.Utf8

def encode (s : String) : Bytes :=
  s.toList.flatMap String.utf8EncodeChar

/-- Whether a byte continues a character begun before it. -/
def isContinuation (b : UInt8) : Bool :=
  0x80 ≤ b && b ≤ 0xbf

/-- How many bytes a character has that begins with `b`, and the range its second byte lies in.
The ranges leave out overlong forms, surrogates and what lies above U+10FFFF. -/
def lead? (b : UInt8) : Option (Nat × UInt8 × UInt8) :=
  if 0xc2 ≤ b && b ≤ 0xdf then some (2, 0x80, 0xbf)
  else if b == 0xe0 then some (3, 0xa0, 0xbf)
  else if b == 0xed then some (3, 0x80, 0x9f)
  else if 0xe1 ≤ b && b ≤ 0xef then some (3, 0x80, 0xbf)
  else if b == 0xf0 then some (4, 0x90, 0xbf)
  else if 0xf1 ≤ b && b ≤ 0xf3 then some (4, 0x80, 0xbf)
  else if b == 0xf4 then some (4, 0x80, 0x8f)
  else none

/-- The low six bits of a continuation byte. -/
def payload (b : UInt8) : Nat := b.toNat % 64

/-- The first character of the bytes, or `none` for the longest piece that starts no character,
with the bytes after it. -/
def next (b : UInt8) (rest : Bytes) : Option Char × Bytes :=
  if b < 0x80 then (some (Char.ofNat b.toNat), rest)
  else match lead? b, rest with
    | none, _ => (none, rest)
    | some _, [] => (none, [])
    | some (n, lo, hi), c :: rest₁ =>
      if !(lo ≤ c && c ≤ hi) then (none, c :: rest₁)
      else if n = 2 then (some (Char.ofNat (b.toNat % 32 * 64 + payload c)), rest₁)
      else match rest₁ with
        | [] => (none, [])
        | d :: rest₂ =>
          if !isContinuation d then (none, d :: rest₂)
          else if n = 3 then
            (some (Char.ofNat ((b.toNat % 16 * 64 + payload c) * 64 + payload d)), rest₂)
          else match rest₂ with
            | [] => (none, [])
            | e :: rest₃ =>
              if !isContinuation e then (none, e :: rest₃)
              else
                (some (Char.ofNat
                  (((b.toNat % 8 * 64 + payload c) * 64 + payload d) * 64 + payload e)), rest₃)

theorem length_next (b : UInt8) (rest : Bytes) : (next b rest).2.length ≤ rest.length := by
  unfold next
  repeat' split
  all_goals simp_all
  all_goals omega

/-- The characters of the bytes, with `none` for each piece that starts no character. -/
def scan : Bytes → List (Option Char)
  | [] => []
  | b :: rest =>
    (next b rest).1 :: scan (next b rest).2
termination_by bs => bs.length
decreasing_by exact Nat.lt_succ_of_le (length_next b rest)

/-- The text that the bytes spell, if they are well formed throughout. -/
def decode? (bs : Bytes) : Option String :=
  ((scan bs).mapM id).map String.ofList

/-- The text that the bytes spell, with U+FFFD for each piece that starts no character. -/
def decodeLossy (bs : Bytes) : String :=
  String.ofList ((scan bs).map fun c => c.getD '\ufffd')

/-- The length of the text in bytes. -/
def sizeOf (cs : List Char) : Nat :=
  cs.foldr (fun c n => c.utf8Size + n) 0

end HostFleet.Utf8
