import ValidatorKeys.Text.Lines

/-!
# Permission bits

Permission bits in letters, and what changes them: octal digits, or letters between commas.

    ofText? directory mask mode "755"     = some 0o755
    ofText? directory mask mode "u+x,g=u" changes those of the owner, then those of the group
-/

namespace ValidatorKeys.FileMode

/-! ## Letters -/

def letters (n : Nat) : List Char :=
  (if n &&& 4 ≠ 0 then ['r'] else []) ++ (if n &&& 2 ≠ 0 then ['w'] else []) ++
    if n &&& 1 ≠ 0 then ['x'] else []

/-- Permission bits by owner, group and others. -/
def classText (mode : Nat) : List Char :=
  "u=".toList ++ letters (mode / 64 % 8) ++ ",g=".toList ++ letters (mode / 8 % 8) ++
    ",o=".toList ++ letters (mode % 8)

def octalText (n : Nat) : List Char :=
  let ds := Nat.toDigits 8 n
  List.replicate (4 - ds.length) '0' ++ ds

/-! ## Changes -/

/-- The bits of one letter of a permission, among those that were there before. -/
def permissionBits? (mode : Nat) (directory : Bool) (c : Char) : Option Nat :=
  match c with
  | 'r' => some 0o444
  | 'w' => some 0o222
  | 'x' => some 0o111
  | 'X' => some (if directory || mode &&& 0o111 ≠ 0 then 0o111 else 0)
  | 's' => some 0o6000
  | 't' => some 0o1000
  | 'u' => some (mode / 64 % 8 * 0o111)
  | 'g' => some (mode / 8 % 8 * 0o111)
  | 'o' => some (mode % 8 * 0o111)
  | _ => none

/-- The bits that a letter for owner, group, others or all of them covers. -/
def classBits? (c : Char) : Option Nat :=
  match c with
  | 'u' => some 0o4700
  | 'g' => some 0o2070
  | 'o' => some 0o1007
  | 'a' => some 0o7777
  | _ => none

def isOctal (c : Char) : Bool := '0' ≤ c && c ≤ '7'

/-- The number that octal digits spell. -/
def octalValue (s : List Char) : Nat := s.foldl (fun n c => 8 * n + (c.toNat - 48)) 0

/-- Permission bits changed by actions behind the letters of classes, in at most `n` of them. -/
def change (directory : Bool) (classes refused : Nat) : Nat → List Char → Nat → Option Nat
  | _, [], mode => some mode
  | 0, _, _ => none
  | n + 1, sign :: r, mode =>
    if sign ≠ '+' ∧ sign ≠ '-' ∧ sign ≠ '=' then none
    else
      let digits := r.takeWhile isOctal
      let (asked, rest) :=
        if digits.isEmpty then
          let named := r.takeWhile fun c => (permissionBits? mode directory c).isSome
          let bits := named.foldl (fun b c => b ||| (permissionBits? mode directory c).getD 0) 0
          ((bits &&& classes) - ((bits &&& classes) &&& refused), r.drop named.length)
        else (octalValue digits &&& 0o7777, r.drop digits.length)
      let covered := if digits.isEmpty then classes else 0o7777
      let covered := if directory then covered - (covered &&& (0o6000 - (asked &&& 0o6000)))
        else covered
      let mode :=
        if sign = '+' then mode ||| asked
        else if sign = '-' then mode - (mode &&& asked)
        else (mode - (mode &&& covered)) ||| asked
      change directory classes refused n rest mode

/-- Permission bits that a text asks for: octal digits, or changes between commas.  Where no class is
named, bits that `mask` covers stay as they are; a directory keeps the bits of identity that are not
named. -/
def ofText? (directory : Bool) (mask mode : Nat) (s : List Char) : Option Nat :=
  if !s.isEmpty && s.all isOctal then
    let n := octalValue s
    let kept := if directory && s.length < 5 then mode &&& 0o6000 else 0
    if 0o7777 < n then none else some (n ||| kept)
  else
    (Text.splitAt ',' s).foldlM (fun mode part =>
      let classes := part.takeWhile fun c => (classBits? c).isSome
      let rest := part.drop classes.length
      let covered := classes.foldl (fun b c => b ||| (classBits? c).getD 0) 0
      if rest.isEmpty then none
      else if classes.isEmpty then change directory 0o7777 mask rest.length rest mode
      else change directory covered 0 rest.length rest mode) mode

end ValidatorKeys.FileMode
