import ValidatorKeys.Printing.Format
import ValidatorKeys.Shell.Builtin.Arguments
import ValidatorKeys.Shell.Condition

/-!
# Commands that print and decide

`echo`, `printf` and `test`, as a shell has them to itself.
-/

namespace ValidatorKeys.Shell

open Kernel (Bytes Work)

/-! ## Printing -/

def echoBuiltin : Builtin where
  perform _ _ args := do
    match args with
    | ['-', 'n'] :: rest => print (Printing.echo true false false rest)
    | args => print (Printing.echo true false true args)

def formatComplaint : Printing.Complaint → Option Bytes
  | .notNumeric s => some (s ++ ": expected numeric value".toList)
  | .partlyNumeric s => some (s ++ ": not completely converted".toList)
  | .outOfRange s => some (s ++ ": Numerical result out of range".toList)
  | .incomplete _ => some "missing format character".toList
  | .invalidDirective source => some (source ++ ": invalid directive".toList)
  | _ => none

def printfBuiltin : Builtin where
  perform _ _ args := do
    let (_, args) ← readOptions "" args
    match args with
    | [] => abort "usage: printf format [arg ...]".toList
    | format :: args =>
      let p := Printing.printed false format args
      let faults := p.complaints.reverse.filterMap formatComplaint
      if p.failed then
        let _ ← say p.output
        match faults.getLast? with
        | some text => abort text
        | none => abort []
      for text in faults do complain text
      print p.output
      if !faults.isEmpty then setStatus 1

/-! ## Conditions -/

/-- Decides a condition; `bracket` tells that it is closed by one. -/
def testBuiltin (bracket : Bool) : Builtin where
  perform _ _ args := do
    match ← work (Work.onFiles fun t cwd =>
        if bracket then Condition.decideBracket t cwd args else Condition.decideAll t cwd args) with
    | .ok answer => setStatus (if answer then 0 else 1)
    | .error fault => abort fault.message

end ValidatorKeys.Shell
