/-!
# Binary floating point numbers and their decimal text

Numbers with 53 significant bits, as sign, mantissa and exponent of two.  A decimal is read as the
nearest of them, ties to the even mantissa.  Each is written with the fewest digits that read back
as itself, in positional notation, with a fraction even when it is whole.

    ofDecimal n d e   = the number nearest to ± d · 10^e
    shortest m e      = digits d and exponent k with d · 10^k in the interval that reads as m · 2^e
-/

namespace ValidatorKeys

/-- A floating point number.  In `finite`, the magnitude is `mantissa * 2 ^ exponent`; the mantissa
is below `2 ^ 53`, and at least `2 ^ 52` unless the exponent is least. -/
inductive Binary64 where
  | nan
  | infinite (negative : Bool)
  | finite (negative : Bool) (mantissa : Nat) (exponent : Int)
  deriving Repr, DecidableEq

namespace Binary64

/-! ## Reading -/

def leastExponent : Int := -1074

/-- The greatest exponent. -/
def greatestExponent : Int := 971

/-- The quotient rounded to the nearest whole number, ties to even. -/
def roundDiv (num den : Nat) : Nat :=
  let q := num / den
  let r := num % den
  if 2 * r < den then q
  else if den < 2 * r then q + 1
  else if q % 2 = 0 then q else q + 1

/-- The fraction `num / den` times `base ^ e`, as a fraction. -/
def scale (base : Nat) (num den : Nat) (e : Int) : Nat × Nat :=
  if 0 ≤ e then (num * Nat.pow base e.toNat, den) else (num, den * Nat.pow base (-e).toNat)

/-- The exponent that puts the positive fraction `num / den` between `2 ^ 52` and `2 ^ 53`. -/
def binade (num den : Nat) : Int :=
  let e : Int := (num.log2 : Int) - (den.log2 : Int) - 53
  let x := scale 2 num den (-e)
  if x.2 * Nat.pow 2 53 ≤ x.1 then e + 1 else e

/-- The number nearest to the positive fraction `num / den`. -/
def ofFraction (negative : Bool) (num den : Nat) : Binary64 :=
  let e := max (binade num den) leastExponent
  let x := scale 2 num den (-e)
  let m := roundDiv x.1 x.2
  if m = Nat.pow 2 53 then
    if greatestExponent < e + 1 then .infinite negative
    else .finite negative (Nat.pow 2 52) (e + 1)
  else if greatestExponent < e then .infinite negative
  else .finite negative m e

def digitCount (n : Nat) : Nat := (Nat.toDigits 10 n).length

/-- The number nearest to `digits * 10 ^ e`.  Exponents far out of range are decided by size. -/
def ofDecimal (negative : Bool) (digits : Nat) (e : Int) : Binary64 :=
  if digits = 0 then .finite negative 0 leastExponent
  else if 310 < (digitCount digits : Int) + e then .infinite negative
  else if (digitCount digits : Int) + e < -330 then .finite negative 0 leastExponent
  else
    let x := scale 10 digits 1 e
    ofFraction negative x.1 x.2

/-! ## Writing -/

/-- Removes the zeros at the end of the digits, at most `fuel` of them. -/
def dropZeros : Nat → Nat → Int → Nat × Int
  | 0, d, k => (d, k)
  | fuel + 1, d, k => if d % 10 = 0 then dropZeros fuel (d / 10) (k + 1) else (d, k)

/-- Whether `c * 10 ^ k` lies between two fractions over the same denominator, or at one of them
when the interval is closed. -/
def isInside (low high den : Nat) (closed : Bool) (k : Int) (c : Nat) : Bool :=
  let x := scale 10 c 1 k
  if closed then low * x.2 ≤ x.1 * den && x.1 * den ≤ high * x.2
  else low * x.2 < x.1 * den && x.1 * den < high * x.2

/-- The first of the decimal grids, from `count` digits down to coarser left, that has a point in
the interval around `num / den`.  All bounds are over the same denominator; `p` is the decimal
exponent of the value. -/
def firstGrid (num low high den : Nat) (closed : Bool) (p : Int) : Nat → Nat → Nat × Int
  | 0, count => (num / den, p - count)
  | fuel + 1, count =>
    let k : Int := p - count + 1
    let x := scale 10 num den (-k)
    let down := x.1 / x.2
    let up := down + 1
    match isInside low high den closed k down, isInside low high den closed k up with
    | true, true => if 2 * (x.1 % x.2) < x.2 then (down, k) else (up, k)
    | true, false => (down, k)
    | false, true => (up, k)
    | false, false => firstGrid num low high den closed p fuel (count + 1)

/-- The decimal exponent of the positive fraction `num / den`. -/
def decade (num den : Nat) : Int :=
  let p : Int := (digitCount num : Int) - (digitCount den : Int)
  let x := scale 10 num den (-p)
  if x.2 ≤ x.1 then p else p - 1

/-- The fewest digits that read back as `m * 2 ^ e`, and their exponent of ten. -/
def shortest (m : Nat) (e : Int) : Nat × Int :=
  let below := if m = Nat.pow 2 52 ∧ leastExponent < e then 1 else 2
  let x := scale 2 (4 * m) 1 (e - 2)
  let low := (scale 2 (4 * m - below) 1 (e - 2)).1
  let high := (scale 2 (4 * m + 2) 1 (e - 2)).1
  let d := firstGrid x.1 low high x.2 (m % 2 == 0) (decade x.1 x.2) 20 1
  dropZeros 20 d.1 d.2

/-- Digits times a power of ten in positional notation, with at least one digit of fraction. -/
def positional (digits : Nat) (k : Int) : String :=
  let ds := Nat.toDigits 10 digits
  if 0 ≤ k then String.ofList (ds ++ List.replicate k.toNat '0') ++ ".0"
  else
    let places := (-k).toNat
    let padded := List.replicate (places + 1 - ds.length) '0' ++ ds
    String.ofList (padded.take (padded.length - places)) ++ "." ++
      String.ofList (padded.drop (padded.length - places))

def text : Binary64 → String
  | .nan => "nan"
  | .infinite negative => if negative then "-inf" else "inf"
  | .finite negative m e =>
    (if negative then "-" else "") ++
      if m = 0 then "0.0"
      else positional (shortest m e).1 (shortest m e).2

end Binary64

end ValidatorKeys
