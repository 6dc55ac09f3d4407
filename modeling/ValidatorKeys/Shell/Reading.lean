import ValidatorKeys.Shell.Field
import ValidatorKeys.Shell.Frame

/-!
# What `read` takes from its input

A line is taken whole.  Unless it is read raw, a backslash keeps the next character from separating,
and one before a line feed joins two lines.  The line is cut into as many values as there are
variables, the last of which gets what is left.
-/

namespace ValidatorKeys.Shell.Reading

open Kernel (Bytes Work)

/-- The characters of a line, those that may separate marked, and whether a backslash at its end
joins it to the next one. -/
def mark (raw : Bool) : Bytes → List Marked × Bool
  | [] => ([], false)
  | '\\' :: c :: r =>
    if raw then
      let (s, joined) := mark raw (c :: r)
      (('\\', true) :: s, joined)
    else
      let (s, joined) := mark raw r
      ((c, false) :: s, joined)
  | c :: r =>
    if c = '\\' ∧ !raw then ([], true)
    else
      let (s, joined) := mark raw r
      ((c, true) :: s, joined)

/-- Takes a line from a descriptor, joined to at most `n` others; answers whether its end was
found. -/
def takeLine (raw : Bool) (number : Nat) : Nat → Work (List Marked × Bool)
  | 0 => pure ([], false)
  | n + 1 => do
    match ← Work.read number .line with
    | .error _ => pure ([], false)
    | .ok text =>
      let ended := text.getLast? == some '\n'
      let line := (if ended then text.dropLast else text).filter (· ≠ Char.ofNat 0)
      let (s, joined) := mark raw line
      if joined && ended then
        let (rest, found) ← takeLine raw number n
        pure (s ++ rest, found)
      else pure (s, ended)

def joinLimit : Nat := 100000

/-! ## Values -/

def isSeparator (separators : Bytes) (m : Marked) : Bool := m.2 && separators.contains m.1

/-- Whether a character separates as a blank. -/
def isBlank (separators : Bytes) (m : Marked) : Bool :=
  isSeparator separators m && Cell.isBlankSeparator m.1

/-- The text without the separating blanks at its end. -/
def trimEnd (separators : Bytes) (s : List Marked) : List Marked :=
  (s.reverse.dropWhile (isBlank separators)).reverse

/-- The text behind one separator with the blanks around it. -/
def dropSeparator (separators : Bytes) (s : List Marked) : List Marked :=
  let s := s.dropWhile (isBlank separators)
  match s with
  | m :: r => if isSeparator separators m then r.dropWhile (isBlank separators) else m :: r
  | [] => []

/-- What is left for the last variable: one separator at its end goes when it is the only one. -/
def lastValue (separators : Bytes) (s : List Marked) : List Marked :=
  let rest := dropSeparator separators (s.dropWhile fun m => !isSeparator separators m)
  if rest.isEmpty then s.takeWhile fun m => !isSeparator separators m
  else trimEnd separators s

/-- The values of `n` variables. -/
def values (separators : Bytes) : Nat → List Marked → List Bytes
  | 0, _ => []
  | 1, s => [plainText (lastValue separators s)]
  | n + 1, s =>
    plainText (s.takeWhile fun m => !isSeparator separators m) ::
      values separators n
        (dropSeparator separators (s.dropWhile fun m => !isSeparator separators m))

/-- The values that a line gives to `n` variables. -/
def assign (separators : Bytes) (n : Nat) (line : List Marked) : List Bytes :=
  values separators n (line.dropWhile (isBlank separators))

end ValidatorKeys.Shell.Reading
