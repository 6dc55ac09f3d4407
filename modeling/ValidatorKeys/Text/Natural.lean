/-!
# Natural numbers of 64 bits as text

A plus sign may stand in front of the digits; nothing else may stand beside them.  Leading zeros are
allowed and do not count.

    word? s = some n   exactly when s spells n and n is below 2^64
-/

namespace ValidatorKeys.Text

def dropPlus : List Char → List Char
  | '+' :: r => r
  | s => s

def decimalValue (ds : List Char) : Nat := ds.foldl (fun n c => 10 * n + (c.toNat - 48)) 0

/-- The number below `2 ^ 64` that a text spells. -/
def word? (s : List Char) : Option Nat :=
  let ds := dropPlus s
  if ds.isEmpty || !ds.all Char.isDigit then none
  else if decimalValue ds < Nat.pow 2 64 then some (decimalValue ds)
  else none

end ValidatorKeys.Text
