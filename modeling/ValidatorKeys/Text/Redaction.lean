import ValidatorKeys.Text.Blank

/-!
# Redaction of long hex numbers

`0x` and sixteen or more hex digits may be key material.  `redact` reads from the left, takes each
such number as long as it goes, and writes a placeholder for it.
-/

namespace ValidatorKeys.Text

/-- Whether a character is a hex digit, of either case. -/
def isHexDigit (c : Char) : Bool :=
  ('0' ≤ c && c ≤ '9') || ('a' ≤ c && c ≤ 'f') || ('A' ≤ c && c ≤ 'F')

/-- What is written for a long hex number. -/
def redacted : List Char := "0x[REDACTED]".toList

/-- The text with the placeholder for each long hex number. -/
def redact : List Char → List Char
  | [] => []
  | '0' :: 'x' :: r =>
    if 16 ≤ (r.takeWhile isHexDigit).length then redacted ++ redact (r.dropWhile isHexDigit)
    else '0' :: 'x' :: redact r
  | c :: r => c :: redact r
termination_by s => s.length
decreasing_by
  · have := length_dropWhile_le isHexDigit r
    simp only [List.length_cons]
    omega
  · simp only [List.length_cons]
    omega
  · simp only [List.length_cons]
    omega

/-- A string with the placeholder for each long hex number. -/
def redactString (s : String) : String := String.ofList (redact s.toList)

end ValidatorKeys.Text
