import HostFleet.Text.Utf8

/-!
# Texts of bytes

Programs work on bytes, and so are their names, arguments and variables. In a byte text each
character stands for the byte of its number, so that what holds of strings holds of bytes.
-/

namespace HostFleet.ByteText

def ofBytes (bs : Bytes) : String := String.ofList (bs.map fun b => Char.ofNat b.toNat)

def toBytes (s : String) : Bytes := s.toList.map fun c => UInt8.ofNat c.toNat

/-- The bytes of a text in UTF-8. -/
def ofText (s : String) : String := ofBytes (Utf8.encode s)

/-- The text that the bytes spell, with U+FFFD for each piece that starts no character. -/
def toText (s : String) : String := Utf8.decodeLossy (toBytes s)

/-- The lines, without their newlines. -/
def lines (s : String) : List String :=
  let parts := s.splitOn "\n"
  if parts.getLast? = some "" then parts.dropLast else parts

end HostFleet.ByteText
