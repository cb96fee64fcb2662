import HostFleet.Shell.Expansion
import HostFleet.Text.Regex
import HostFleet.Utility.Condition

/-!
# Conditions between double brackets

The conditions of the large dialect, in which words are not split, patterns and regular
expressions can be matched, and numbers are arithmetic expressions.
-/

namespace HostFleet.Shell

open Machine

/-- The regular expression that pieces spell. What is in quotes stands for itself. -/
def regexText (pieces : List Piece) : String :=
  String.join (pieces.map fun
    | .fixed s => String.join (s.toList.map fun c =>
      if ".[]*^$+?()|\x7b\x7d\x5c".contains c then String.ofList ['\x5c', c]
      else String.singleton c)
    | piece => piece.text)

/-- Whether a regular expression matches, and what its groups do. -/
def matchRegex (text expression : String) (ignoreCase : Bool) : Act Bool := do
  match Regex.read Regex.strictExtended expression with
  | .error _ => do
    Act.setStatus 2
    pure false
  | .ok (r, groups) =>
    let cs := text.toList.toArray
    match Regex.search? { ignoreCase := ignoreCase } r cs 0 with
    | none => do
      Act.changeArray "BASH_REMATCH" fun _ => {}
      pure false
    | some m => do
      let items := (List.range (groups + 1)).map fun n =>
        (toString n, String.ofList ((m.group? cs n).getD []))
      Act.changeArray "BASH_REMATCH" fun _ => { items := items }
      pure true

def compareNumbers (op : String) (a b : Int) : Bool :=
  match op with
  | "-eq" => a == b
  | "-ne" => a != b
  | "-lt" => a < b
  | "-le" => a ≤ b
  | "-gt" => a > b
  | _ => a ≥ b

/-- Whether a condition holds. -/
def holds (h : Hooks) (fuel : Nat) (c : Condition) : Act Bool :=
  match c with
  | .negation c => do pure !(← holds h fuel c)
  | .both l r => do if ← holds h fuel l then holds h fuel r else pure false
  | .either l r => do if ← holds h fuel l then pure true else holds h fuel r
  | .word w => do pure ((← expandText h fuel .text w) != "")
  | .unary op w => do
    let text ← expandText h fuel .text w
    let s ← Act.state
    let array := String.ofList (text.toList.takeWhile (· != '['))
    let key := String.ofList ((text.toList.drop (array.length + 1)).dropLast)
    let view : Condition.View := { ← Condition.view .large with
      isSet := fun name =>
        if name = array then (s.parameter? name).isSome || (s.array? name).any fun a =>
          (a.get? "0").isSome
        else (s.array? array).any fun a => key = "@" || (a.get? key).isSome
      isOn := s.has }
    if Condition.isUnary .large op then
      match HostFleet.Condition.unary view op text with
      | .ok b => pure b
      | .error message => Act.fail message
    else Act.failWith 2 s!"conditional unary operator expected"
  | .binary l op r => do
    let left ← expandText h fuel .text l
    let s ← Act.state
    let lower (t : String) : String := if s.has "nocasematch" then t.map Char.toLower else t
    let same : Act Bool := do
      let pieces := (← expand h fuel .text r).flatMap Piece.pattern
      let pieces := if s.has "nocasematch" then pieces.map fun p => (p.1.toLower, p.2) else pieces
      pure ((Pattern.read true pieces).isMatch (lower left).toList)
    match op with
    | "=" => same
    | "==" => same
    | "!=" => do pure !(← same)
    | "=~" => do
      matchRegex left (regexText (← expand h fuel .text r)) (s.has "nocasematch")
    | "<" => do pure (left < (← expandText h fuel .text r))
    | ">" => do pure ((← expandText h fuel .text r) < left)
    | op => do
      let right ← expandText h fuel .text r
      if ["-eq", "-ne", "-lt", "-le", "-gt", "-ge"].contains op then do
        pure (compareNumbers op (← Act.evaluate left) (← Act.evaluate right))
      else match HostFleet.Condition.binary (← Condition.view .large) op left right with
        | .ok b => pure b
        | .error message => Act.fail message

end HostFleet.Shell
