/-!
# Floating numbers

Binary numbers of limited precision as pairs of whole numbers, their nearest neighbours of a
decimal number, and the ways of `printf` to write them. Everything is computed exactly.
-/

namespace HostFleet

/-- A number with a sign of its own, `mantissa * 2 ^ exponent`. -/
inductive Floating where
  | finite (negative : Bool) (mantissa : Nat) (exponent : Int)
  | infinite (negative : Bool)
  | notNumber (negative : Bool)
  deriving DecidableEq, Repr

namespace Floating

/-- How many bits a number has, and the exponents it can have. -/
structure Precision where
  bits : Nat
  lowest : Int
  highest : Int

def single : Precision := ⟨24, -149, 104⟩

def double : Precision := ⟨53, -1074, 971⟩

def extended : Precision := ⟨64, -16445, 16320⟩

/-- The quotient rounded to the nearest whole number, and to the even one of two. -/
def roundDiv (n d : Nat) : Nat :=
  let q := n / d
  let r := n % d
  if 2 * r < d then q
  else if d < 2 * r then q + 1
  else q + q % 2

/-- The nearest number of this precision to `n / d`. -/
def ofRatio (p : Precision) (negative : Bool) (n d : Nat) : Floating :=
  if n = 0 then .finite negative 0 0
  else
    let guess : Int := (n.log2 : Int) - d.log2 - p.bits
    let scaled (e : Int) : Nat :=
      if 0 ≤ e then roundDiv n (d * Nat.pow 2 e.toNat) else roundDiv (n * Nat.pow 2 (-e).toNat) d
    let e := max guess p.lowest
    let e := if Nat.pow 2 p.bits ≤ scaled e then e + 1 else e
    let m := scaled e
    let (m, e) := if m = Nat.pow 2 p.bits then (Nat.pow 2 (p.bits - 1), e + 1) else (m, e)
    if p.highest < e then .infinite negative else .finite negative m e

/-- The nearest number of this precision to `n * 10 ^ e`. -/
def ofDecimal (p : Precision) (negative : Bool) (n : Nat) (e : Int) : Floating :=
  if n = 0 then .finite negative 0 0
  else if 6000 < e + n.log2 / 4 then .infinite negative
  else if e + n.log2 < -6000 then .finite negative 0 0
  else if 0 ≤ e then ofRatio p negative (n * Nat.pow 10 e.toNat) 1
  else ofRatio p negative n (Nat.pow 10 (-e).toNat)

/-- The number that a machine word spells: a sign, an exponent of so many bits, and the bits of the
mantissa behind the first. -/
def ofWord (p : Precision) (exponentBits word : Nat) : Floating :=
  let low := p.bits - 1
  let negative := word / Nat.pow 2 (low + exponentBits) % 2 == 1
  let e : Nat := word / Nat.pow 2 low % Nat.pow 2 exponentBits
  let m : Nat := word % Nat.pow 2 low
  if e = Nat.pow 2 exponentBits - 1 then if m = 0 then .infinite negative else .notNumber negative
  else if e = 0 then .finite negative m p.lowest
  else .finite negative (Nat.pow 2 low + m) (p.lowest + e - 1)

/-- The number that a machine word of double precision is. -/
def ofFloat (x : Float) : Floating := ofWord double 11 x.toBits.toNat

/-- A number of double precision as a machine word. -/
def toFloat : Floating → Float
  | .finite negative m e =>
    let x := Float.scaleB m.toFloat e
    if negative then -x else x
  | .infinite negative => if negative then -1.0 / 0.0 else 1.0 / 0.0
  | .notNumber negative =>
    let x : Float := 0.0 / 0.0
    if negative then -x else x

def isNegative : Floating → Bool
  | .finite negative _ _ => negative
  | .infinite negative => negative
  | .notNumber negative => negative

/-- The magnitude as a quotient. -/
def ratio (m : Nat) (e : Int) : Nat × Nat :=
  if 0 ≤ e then (m * Nat.pow 2 e.toNat, 1) else (m, Nat.pow 2 (-e).toNat)

def digits (n : Nat) : List Char := Nat.toDigits 10 n

/-- Digits with a point before the last `places` of them. -/
def withPoint (places : Nat) (alternate : Bool) (n : Nat) : List Char :=
  let ds := digits n
  let ds := List.replicate (places + 1 - ds.length) '0' ++ ds
  let whole := ds.take (ds.length - places)
  if places = 0 then if alternate then whole ++ ['.'] else whole
  else whole ++ '.' :: ds.drop (ds.length - places)

/-- The magnitude with this many places behind the point. -/
def fixed (m : Nat) (e : Int) (places : Nat) (alternate : Bool) : List Char :=
  let (n, d) := ratio m e
  withPoint places alternate (roundDiv (n * Nat.pow 10 places) d)

/-- The first `count` digits of a magnitude, rounded, and the power of ten of the first. -/
def leading (m : Nat) (e : Int) (count : Nat) : Nat × Int :=
  if m = 0 then (0, 0)
  else
    let (n, d) := ratio m e
    let scaled (x : Int) : Nat :=
      let shift := (count : Int) - 1 - x
      if 0 ≤ shift then roundDiv (n * Nat.pow 10 shift.toNat) d
      else roundDiv n (d * Nat.pow 10 (-shift).toNat)
    let x : Int :=
      if d ≤ n then (digits (n / d)).length - 1
      else -((digits ((d + n - 1) / n - 1)).length : Int)
    let s := scaled x
    if s < Nat.pow 10 (count - 1) then (scaled (x - 1), x - 1)
    else if s < Nat.pow 10 count then (s, x)
    else (s / 10, x + 1)

def exponentText (mark : Char) (x : Int) : List Char :=
  let ds := digits x.natAbs
  mark :: (if x < 0 then '-' else '+') :: (List.replicate (2 - ds.length) '0' ++ ds)

/-- The magnitude with one digit before the point and a power of ten. -/
def scientific (m : Nat) (e : Int) (places : Nat) (alternate : Bool) (mark : Char) : List Char :=
  let (s, x) := leading m e (places + 1)
  withPoint places alternate s ++ exponentText mark x

/-- Leaves out zeros at the end of a fraction, and a point that ends the number. -/
def dropZeros (cs : List Char) : List Char :=
  if cs.contains '.' then
    let back := cs.reverse.dropWhile (· = '0')
    (if back.head? = some '.' then back.tail else back).reverse
  else cs

/-- The magnitude in the shorter of the two ways, with this many digits. -/
def general (m : Nat) (e : Int) (count : Nat) (alternate : Bool) (mark : Char) : List Char :=
  let count := max count 1
  let (s, x) := leading m e count
  if x < -4 || (count : Int) ≤ x then
    let mantissa := withPoint (count - 1) alternate s
    (if alternate then mantissa else dropZeros mantissa) ++ exponentText mark x
  else
    let text := fixed m e ((count : Int) - 1 - x).toNat alternate
    if alternate then text else dropZeros text

/-- The magnitude in base 16 with a power of two. The first digit has `lead` bits. -/
def hexadecimal (m : Nat) (e : Int) (lead : Nat) (places : Option Nat) (alternate upper : Bool) :
    List Char :=
  let hex (n : Nat) : List Char := Nat.toDigits 16 n
  let finish (whole : List Char) (fraction : List Char) (x : Int) : List Char :=
    let point := if fraction.isEmpty && !alternate then [] else ['.']
    let cs := '0' :: 'x' :: whole ++ point ++ fraction ++
      'p' :: (if x < 0 then '-' else '+') :: digits x.natAbs
    if upper then cs.map Char.toUpper else cs
  if m = 0 then finish ['0'] (List.replicate (places.getD 0) '0') 0
  else
    let bits := m.log2 + 1
    let fractionBits := (bits - lead + 3) / 4 * 4
    let shift := lead + fractionBits - bits
    let m := m * Nat.pow 2 shift
    let e := e - shift
    let count := fractionBits / 4
    match places with
    | none =>
      let ds := (hex (m % Nat.pow 2 fractionBits))
      let ds := List.replicate (count - ds.length) '0' ++ ds
      let ds := (ds.reverse.dropWhile (· = '0')).reverse
      finish (hex (m / Nat.pow 2 fractionBits)) ds (e + fractionBits)
    | some places =>
      let (m, count) :=
        if places < count then (roundDiv m (Nat.pow 16 (count - places)), places)
        else (m * Nat.pow 16 (places - count), places)
      let ds := hex (m % Nat.pow 16 count)
      let ds := if count = 0 then [] else List.replicate (count - ds.length) '0' ++ ds
      finish (hex (m / Nat.pow 16 count)) ds (e + fractionBits)

/-- The magnitude under a conversion of `printf`. -/
def magnitude (x : Floating) (conversion : Char) (precision : Option Nat) (alternate : Bool)
    (lead : Nat) : List Char :=
  let upper := conversion.isUpper
  let name (s : String) : List Char := if upper then s.toList.map Char.toUpper else s.toList
  match x with
  | .infinite _ => name "inf"
  | .notNumber _ => name "nan"
  | .finite _ m e =>
    let places := precision.getD 6
    match conversion.toLower with
    | 'f' => fixed m e places alternate
    | 'e' => scientific m e places alternate (if upper then 'E' else 'e')
    | 'g' => general m e places alternate (if upper then 'E' else 'e')
    | _ => hexadecimal m e lead precision alternate upper

def isFinite : Floating → Bool
  | .finite .. => true
  | _ => false

/-! ## Reading -/

/-- A number at the front of a text, and what follows it: a sign, then digits with a point and a
power of ten, digits in base 16 with a power of two, or a name. -/
def read? (p : Precision) (cs : List Char) : Option (Floating × List Char) :=
  let (negative, body) := match cs with
    | '-' :: rest => (true, rest)
    | '+' :: rest => (false, rest)
    | cs => (false, cs)
  let word := (body.take 8).map Char.toLower
  let power (marks : List Char) (cs : List Char) : Int × List Char :=
    match cs with
    | c :: rest =>
      if marks.contains c then
        let (minus, ds) := match rest with
          | '-' :: ds => (true, ds)
          | '+' :: ds => (false, ds)
          | ds => (false, ds)
        let number := ds.takeWhile Char.isDigit
        if number.isEmpty then (0, cs)
        else
          let n : Int := number.foldl (fun n c => n * 10 + (c.toNat - 48)) (0 : Nat)
          (if minus then -n else n, ds.drop number.length)
      else (0, cs)
    | [] => (0, [])
  let isHex (c : Char) : Bool := c.isDigit || ('a' ≤ c.toLower && c.toLower ≤ 'f')
  let value (base : Nat) (ds : List Char) : Nat := ds.foldl (fun n c =>
    n * base + (if c.isDigit then c.toNat - 48 else c.toLower.toNat - 87)) 0
  let parts (isDigit : Char → Bool) (cs : List Char) : List Char × List Char × List Char :=
    let whole := cs.takeWhile isDigit
    match cs.drop whole.length with
    | '.' :: rest =>
      let fraction := rest.takeWhile isDigit
      if whole.isEmpty && fraction.isEmpty then ([], [], cs)
      else (whole, fraction, rest.drop fraction.length)
    | rest => (whole, [], rest)
  if word.take 8 = "infinity".toList then some (.infinite negative, body.drop 8)
  else if word.take 3 = "inf".toList then some (.infinite negative, body.drop 3)
  else if word.take 3 = "nan".toList then some (.notNumber negative, body.drop 3)
  else
    let decimal : Option (Floating × List Char) :=
      match parts Char.isDigit body with
      | ([], [], _) => none
      | (whole, fraction, rest) =>
        let (e, rest) := power ['e', 'E'] rest
        some (ofDecimal p negative (value 10 (whole ++ fraction)) (e - fraction.length), rest)
    match body with
    | '0' :: x :: digits =>
      if x = 'x' || x = 'X' then
        match parts isHex digits with
        | ([], [], _) => decimal
        | (whole, fraction, rest) =>
          let (e, rest) := power ['p', 'P'] rest
          let e := e - 4 * fraction.length
          let m := value 16 (whole ++ fraction)
          let e := max (-20000) (min 20000 e)
          some (if 0 ≤ e then ofRatio p negative (m * Nat.pow 2 e.toNat) 1
            else ofRatio p negative m (Nat.pow 2 (-e).toNat), rest)
      else decimal
    | _ => decimal

/-- The fewest digits that are read back as the same number, at most `fuel` more than `count`. -/
def shortest (p : Precision) (x : Floating) (fuel count : Nat) : List Char :=
  let text := (if x.isNegative then ['-'] else []) ++ x.magnitude 'g' (some count) false 1
  match fuel with
  | 0 => text
  | fuel + 1 =>
    if (read? p text).any fun r => ratio? r.1 == ratio? x then text
    else shortest p x fuel (count + 1)
where
  /-- The magnitude as a quotient in lowest terms, or nothing for what is no number. -/
  ratio? : Floating → Option (Nat × Nat)
    | .finite _ m e =>
      let (n, d) := ratio m e
      some (n / n.gcd d, d / n.gcd d)
    | _ => none

end Floating

end HostFleet
