import ValidatorKeys.Toml.Quoted
import ValidatorKeys.Toml.Value

/-!
# TOML numbers

Whole numbers of 64 bits with sign, in four bases, and floating point numbers.  An underscore may
stand between two digits.  A number too great for a positive float is refused.
-/

namespace ValidatorKeys.Toml

/-- Reads the further digits of a number; an underscore needs a digit behind it. -/
def readMoreDigits (p : Char → Bool) : List Char → Option (List Char × List Char)
  | [] => some ([], [])
  | '_' :: c :: r => if p c then consRead c (readMoreDigits p r) else none
  | '_' :: [] => none
  | c :: r => if p c then consRead c (readMoreDigits p r) else some ([], c :: r)

def readRun (p : Char → Bool) : List Char → Option (List Char × List Char)
  | c :: r => if p c then consRead c (readMoreDigits p r) else none
  | [] => none

def valueInBase (base : Nat) (ds : List Char) : Nat :=
  ds.foldl (fun n c => base * n + (hexValue? c).getD 0) 0

/-- A whole number, if it has 64 bits. -/
def integer? (negative : Bool) (magnitude : Nat) : Option Value :=
  if magnitude < Nat.pow 2 63 ∨ (negative ∧ magnitude = Nat.pow 2 63) then
    some (.integer (if negative then -(magnitude : Int) else magnitude))
  else none

def readInBase (base : Nat) (s : List Char) : Option (Value × List Char) := do
  let (ds, s) ← readRun (fun c => (hexValue? c).any (· < base)) s
  let v ← integer? false (valueInBase base ds)
  some (v, s)

/-- Reads the digits in front of the point: a single zero, or digits that do not start with one. -/
def readWhole : List Char → Option (List Char × List Char)
  | '0' :: r => some (['0'], r)
  | s => readRun Char.isDigit s

def readExponentDigits (negative : Bool) (s : List Char) : Option (Int × List Char) :=
  (readRun Char.isDigit s).map fun (ds, s) =>
    (if negative then -(digitsValue ds : Int) else digitsValue ds, s)

def readExponent : List Char → Option (Int × List Char)
  | '-' :: r => readExponentDigits true r
  | '+' :: r => readExponentDigits false r
  | s => readExponentDigits false s

def readOptionalExponent : List Char → Option (Int × List Char)
  | c :: r => if c = 'e' ∨ c = 'E' then readExponent r else some (0, c :: r)
  | [] => some (0, [])

/-- The float of digits, digits behind the point, and exponent. -/
def float? (negative : Bool) (whole fraction : List Char) (e : Int) : Option Value :=
  let v := Binary64.ofDecimal negative (digitsValue (whole ++ fraction)) (e - fraction.length)
  if v = .infinite false then none else some (.float v)

def readDecimal (negative : Bool) (s : List Char) : Option (Value × List Char) := do
  let (whole, s) ← readWhole s
  match s with
  | '.' :: r =>
    let (fraction, s) ← readRun Char.isDigit r
    let (e, s) ← readOptionalExponent s
    let v ← float? negative whole fraction e
    some (v, s)
  | c :: r =>
    if c = 'e' ∨ c = 'E' then
      let (e, s) ← readExponent r
      let v ← float? negative whole [] e
      some (v, s)
    else
      let v ← integer? negative (digitsValue whole)
      some (v, c :: r)
  | [] =>
    let v ← integer? negative (digitsValue whole)
    some (v, [])

/-- Reads a number that may be infinite or none at all, behind its sign. -/
def readSigned (negative : Bool) : List Char → Option (Value × List Char)
  | 'i' :: 'n' :: 'f' :: r => some (.float (.infinite negative), r)
  | 'n' :: 'a' :: 'n' :: r => some (.float .nan, r)
  | s => readDecimal negative s

def readNumber : List Char → Option (Value × List Char)
  | '+' :: r => readSigned false r
  | '-' :: r => readSigned true r
  | '0' :: 'x' :: r => readInBase 16 r
  | '0' :: 'o' :: r => readInBase 8 r
  | '0' :: 'b' :: r => readInBase 2 r
  | s => readSigned false s

end ValidatorKeys.Toml
