import ValidatorKeys.Text.Octets

/-!
# Escapes in printed text

A backslash opens an escape: a letter for a control character, octal digits for a byte, and outside
shells hexadecimal digits for one as well.  What opens no escape stands for itself, backslash
included.  `\c` ends all output.
-/

namespace ValidatorKeys.Printing

abbrev Bytes := List Char

/-! ## Digits -/

def digitValue? (c : Char) : Option Nat :=
  if c.isDigit then some (c.toNat - 48)
  else if 'a' ≤ c ∧ c ≤ 'f' then some (c.toNat - 87)
  else if 'A' ≤ c ∧ c ≤ 'F' then some (c.toNat - 55)
  else none

def isDigitOf (base : Nat) (c : Char) : Bool :=
  match digitValue? c with
  | some d => d < base
  | none => false

/-- The number that digits of a base spell. -/
def valueOf (base : Nat) (ds : Bytes) : Nat :=
  ds.foldl (fun n c => base * n + (digitValue? c).getD 0) 0

/-- The digits of a base at the start of a text, at most `n`, and what follows them. -/
def spanDigits (base n : Nat) (s : Bytes) : Bytes × Bytes :=
  let ds := (s.take n).takeWhile (isDigitOf base)
  (ds, s.drop ds.length)

/-! ## Escapes -/

def control? : Char → Option Char
  | '\\' => some '\\'
  | 'a' => some '\x07'
  | 'b' => some '\x08'
  | 'e' => some '\x1b'
  | 'f' => some '\x0c'
  | 'n' => some '\n'
  | 'r' => some '\r'
  | 't' => some '\t'
  | 'v' => some '\x0b'
  | _ => none

/-- What the text behind a backslash stands for in a format, and what follows it. -/
def escape (hexadecimal : Bool) (s : Bytes) : Bytes × Bytes :=
  match s with
  | [] => (['\\'], [])
  | c :: r =>
    let (octal, rest) := spanDigits 8 3 s
    let (digits, behind) := spanDigits 16 2 r
    if !octal.isEmpty then ([Char.ofNat (valueOf 8 octal % 256)], rest)
    else if hexadecimal && c = 'x' && !digits.isEmpty then
      ([Char.ofNat (valueOf 16 digits)], behind)
    else
      match control? c with
      | some k => ([k], r)
      | none => (['\\', c], r)

/-- What the text behind a backslash stands for in an argument, and what follows it: there octal digits
may have a zero in front, and `\c` ends all output. -/
def escapeArgument (hexadecimal : Bool) (s : Bytes) : Option (Bytes × Bytes) :=
  match s with
  | 'c' :: _ => none
  | '0' :: r =>
    let (ds, rest) := spanDigits 8 3 r
    some ([Char.ofNat (valueOf 8 ds % 256)], rest)
  | s => some (escape hexadecimal s)

/-- The text of an argument with escapes, and whether it ends all output, in at most `n` steps. -/
def unescapeWithin (hexadecimal : Bool) : Nat → Bytes → Bytes × Bool
  | 0, _ => ([], false)
  | _, [] => ([], false)
  | n + 1, '\\' :: r =>
    match escapeArgument hexadecimal r with
    | none => ([], true)
    | some (s, rest) =>
      let (t, stop) := unescapeWithin hexadecimal n rest
      (s ++ t, stop)
  | n + 1, c :: r =>
    let (t, stop) := unescapeWithin hexadecimal n r
    (c :: t, stop)

/-- The text of an argument with escapes, and whether it ends all output. -/
def unescape (hexadecimal : Bool) (s : Bytes) : Bytes × Bool :=
  unescapeWithin hexadecimal s.length s

/-- What a line of arguments prints: their text with blanks between them, and a line feed unless it is
not wanted or output was ended. -/
def echo (escapes hexadecimal newline : Bool) (args : List Bytes) : Bytes :=
  let text := List.intercalate [' '] args
  let (text, stop) := if escapes then unescape hexadecimal text else (text, false)
  if stop || !newline then text else text ++ ['\n']

end ValidatorKeys.Printing
