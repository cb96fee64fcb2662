/-!
# Permissions

How permissions are described: as an octal number, or in letters as changes of what is there.
-/

namespace HostFleet.Machine.Mode

/-- A group of permissions, by the letter of those whom they are for. -/
def bitsOf (who : Char) : Nat :=
  match who with
  | 'u' => 0o4700
  | 'g' => 0o2070
  | 'o' => 0o1007
  | _ => 0o7777

/-- Permissions by their letters, for everybody. -/
def letterBits (old : Nat) (isFolder : Bool) (letter : Char) : Option Nat :=
  match letter with
  | 'r' => some 0o444
  | 'w' => some 0o222
  | 'x' => some 0o111
  | 'X' => some (if isFolder || old &&& 0o111 != 0 then 0o111 else 0)
  | 's' => some 0o6000
  | 't' => some 0o1000
  | 'u' => some (old / 64 % 8 * 0o111)
  | 'g' => some (old / 8 % 8 * 0o111)
  | 'o' => some (old % 8 * 0o111)
  | _ => none

/-- The changes behind those whom they are for. -/
def applied? (isFolder : Bool) (who : Nat) (fuel : Nat) (mode : Nat) (cs : List Char) :
    Option Nat :=
  match fuel, cs with
  | _, [] => some mode
  | 0, _ => none
  | fuel + 1, op :: rest =>
    if ['+', '-', '='].contains op then do
      let letters := rest.takeWhile fun c => !(['+', '-', '='].contains c)
      let bits := (← letters.mapM (letterBits mode isFolder)).foldl (· ||| ·) 0 &&& who
      let mode := match op with
        | '+' => mode ||| bits
        | '-' => mode &&& (0o7777 ^^^ bits)
        | _ =>
          let kept := if isFolder then 0o777 else 0o7777
          mode &&& (0o7777 ^^^ (who &&& kept)) ||| bits
      applied? isFolder who fuel mode (rest.drop letters.length)
    else none

/-- Permissions after the changes that a text describes. Without a word on whom they are for,
changes spare the bits of `mask`. -/
def edit? (text : String) (old : Nat) (isFolder : Bool) (mask : Nat) : Option Nat :=
  if !text.isEmpty && text.all fun c => '0' ≤ c && c ≤ '7' then
    let n := text.toList.foldl (fun n c => n * 8 + (c.toNat - 48)) 0
    if 0o7777 < n then none
    else some (if isFolder && text.length < 5 then n ||| old &&& 0o6000 else n)
  else (text.splitOn ",").foldl (fun mode clause => do
    let cs := clause.toList
    let names := cs.takeWhile fun c => ['u', 'g', 'o', 'a'].contains c
    let who := if names.isEmpty then 0o7777 ^^^ mask
      else (names.map bitsOf).foldl (· ||| ·) 0
    let rest := cs.drop names.length
    if rest.isEmpty then none
    else applied? isFolder who (rest.length + 1) (← mode) rest) (some old)

def change? (text : String) (old : Nat) : Option Nat := edit? text old false 0

end HostFleet.Machine.Mode
