import ValidatorKeys.Shell.Condition
import ValidatorKeys.Utility.Session

/-!
# Deciding

`test` decides a condition as a shell does, and complains in words of its own.
-/

namespace ValidatorKeys.Utility

open Kernel (Bytes)
open Shell (Condition.Fault)

namespace Deciding

/-- Whether three arguments are no condition because the one between is no operator. -/
def lacksOperator : List Bytes → Bool
  | [a, operator, b] =>
    a ≠ ['!'] && !(a = ['('] && b = [')']) &&
      match Shell.Condition.kind? operator with
      | some .binary => false
      | some .conjunction => false
      | some .disjunction => false
      | _ => true
  | _ => false

def complaint (args : List Bytes) : Condition.Fault → Bytes
  | .unexpectedOperator s =>
    if lacksOperator args then quote (args.getD 1 []) ++ ": binary operator expected".toList
    else "extra argument ".toList ++ quote s
  | .argumentExpected s => "missing argument after ".toList ++ quote s
  | .unclosed => "')' expected".toList
  | .illegalNumber s => "invalid integer ".toList ++ quote s
  | .missingBracket => "missing ']'".toList

end Deciding

open Deciding in
/-- Decides a condition; `bracket` tells that one closes it. -/
def test (bracket : Bool) (args : List Bytes) : Run Unit := do
  match ← work (Kernel.Work.onFiles fun t cwd =>
      if bracket then Shell.Condition.decideBracket t cwd args
      else Shell.Condition.decideAll t cwd args) with
  | .ok answer => fail (if answer then 0 else 1)
  | .error fault => abort 2 (complaint args fault)

end ValidatorKeys.Utility
