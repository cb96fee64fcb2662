import HostFleet.Utility.Condition
import HostFleet.Utility.Format
import HostFleet.Utility.Options

/-!
# Programs that shells have too

`echo`, `printf`, `test` and `pwd`, with the rules of programs.
-/

namespace HostFleet.Utility

open Machine

def echo : Utility := fun c => do
  c.put (Format.programEcho c.args)
  pure 0

def printf : Utility := fun c => do
  let args := if c.args.head? = some "--" then c.args.tail else c.args
  match args with
  | [] => c.misuse "missing operand" 1
  | format :: args => do
    let o := Format.printf .program format (args.length + 1) { args := args }
    for fault in o.faults do
      c.warn fault
    c.put o.text
    match o.broken with
    | some message => c.fail message 1
    | none => do
      match o.args with
      | extra :: _ =>
        if !o.stopped then
          c.warn ("warning: ignoring excess arguments, starting with " ++ inQuotes extra)
      | [] => pure ()
      pure (if o.failed then 1 else 0)

def test : Utility := fun c => do
  match Condition.eval (← Condition.view .program) c.args with
  | .ok b => pure (if b then 0 else 1)
  | .error message => c.fail message 2

def bracket : Utility := fun c => do
  if c.args.getLast? = some "]" then test { c with args := c.args.dropLast }
  else c.fail "missing ']'" 2

def pwd : Utility := fun c => do
  let options : Options := { short := "LP", long := [("logical", .none, "L"),
    ("physical", .none, "P")] }
  let p ← options.of c 1
  if !p.operands.isEmpty then c.warn "ignoring non-option arguments"
  let files ← Program.files
  let folder ← Program.folder
  let logical := match p.last? ["L", "P"], c.vars.lookup "PWD" with
    | some "L", some path =>
      if Path.isAbsolute path && !(path.splitOn "/").any (fun s => s = "." || s = "..")
          && (files.locate true "/" path).toOption == (files.locate true "/" folder).toOption
      then some path else none
    | _, _ => none
  c.put (logical.getD folder ++ "\n")
  pure 0

end HostFleet.Utility
