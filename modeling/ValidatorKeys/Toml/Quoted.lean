/-!
# TOML strings

The four forms of a string: basic and literal, on one line and on several.  `read…` functions start
behind the opening quotes; they give the string and what follows its closing quotes.  `written`
chooses the first form that shows the string without escapes, and a basic form when there is none.

A line ending inside a string reads as a line feed.  A backslash before a line ending drops it with
all blanks and line endings that follow.
-/

namespace ValidatorKeys.Toml

/-! ## Reading -/

/-- Whether a character may stand in a basic string unescaped, quotes apart. -/
def isBasicChar (c : Char) : Bool :=
  c = '\t' || (' ' ≤ c && c ≠ '"' && c ≠ '\\' && c.toNat ≠ 0x7F)

/-- Whether a character may stand in a literal string, apostrophes apart. -/
def isLiteralChar (c : Char) : Bool := c = '\t' || (' ' ≤ c && c ≠ '\'' && c.toNat ≠ 0x7F)

/-- The value of a hex digit. -/
def hexValue? (c : Char) : Option Nat :=
  if '0' ≤ c ∧ c ≤ '9' then some (c.toNat - 48)
  else if 'a' ≤ c ∧ c ≤ 'f' then some (c.toNat - 87)
  else if 'A' ≤ c ∧ c ≤ 'F' then some (c.toNat - 55)
  else none

/-- The character with the code point that `n` hex digits give. -/
def hexChar? (n : Nat) (s : List Char) : Option Char :=
  match (s.take n).mapM hexValue? with
  | some ds =>
    let code := ds.foldl (fun v d => 16 * v + d) 0
    if ds.length = n ∧ code.isValidChar then some (Char.ofNat code) else none
  | none => none

/-- The character of an escape, and the number of characters it takes behind the backslash. -/
def escape? : List Char → Option (Char × Nat)
  | 'b' :: _ => some (Char.ofNat 8, 1)
  | 't' :: _ => some ('\t', 1)
  | 'n' :: _ => some ('\n', 1)
  | 'f' :: _ => some (Char.ofNat 12, 1)
  | 'r' :: _ => some ('\r', 1)
  | '"' :: _ => some ('"', 1)
  | '\\' :: _ => some ('\\', 1)
  | 'u' :: r => (hexChar? 4 r).map fun c => (c, 5)
  | 'U' :: r => (hexChar? 8 r).map fun c => (c, 9)
  | _ => none

def consRead (c : Char) : Option (List Char × List Char) → Option (List Char × List Char)
  | some (cs, r) => some (c :: cs, r)
  | none => none

/-- Reads a basic string to its closing quote. -/
def readBasic : List Char → Option (List Char × List Char)
  | [] => none
  | '"' :: r => some ([], r)
  | '\\' :: r =>
    match escape? r with
    | some (c, n) => consRead c (readBasic (r.drop n))
    | none => none
  | c :: r => if isBasicChar c then consRead c (readBasic r) else none
termination_by s => s.length
decreasing_by
  · simp only [List.length_cons, List.length_drop]
    omega
  · simp only [List.length_cons]
    omega

/-- Reads a literal string to its closing apostrophe. -/
def readLiteral : List Char → Option (List Char × List Char)
  | [] => none
  | '\'' :: r => some ([], r)
  | c :: r => if isLiteralChar c then consRead c (readLiteral r) else none

/-- The text behind blanks and line endings. -/
def skipBlankLines : List Char → List Char
  | ' ' :: r => skipBlankLines r
  | '\t' :: r => skipBlankLines r
  | '\n' :: r => skipBlankLines r
  | '\r' :: '\n' :: r => skipBlankLines r
  | s => s

theorem length_skipBlankLines_le (s : List Char) : (skipBlankLines s).length ≤ s.length := by
  fun_induction skipBlankLines s with
  | case1 r ih => simp; omega
  | case2 r ih => simp; omega
  | case3 r ih => simp; omega
  | case4 r ih => simp; omega
  | case5 s => exact Nat.le_refl _

def endsLine : List Char → Bool
  | ' ' :: r => endsLine r
  | '\t' :: r => endsLine r
  | '\n' :: _ => true
  | '\r' :: '\n' :: _ => true
  | _ => false

/-- The text behind a line ending that stands in front. -/
def dropLineEnd : List Char → List Char
  | '\n' :: r => r
  | '\r' :: '\n' :: r => r
  | s => s

/-- At most two quotes, which belong to the string, behind its closing ones. -/
def closingQuotes (q : Char) : List Char → List Char × List Char
  | a :: b :: r =>
    if a = q then (if b = q then ([q, q], r) else ([q], b :: r)) else ([], a :: b :: r)
  | [a] => if a = q then ([q], []) else ([], [a])
  | [] => ([], [])

/-- Reads a basic string of several lines to its closing quotes. -/
def readLongBasic : List Char → Option (List Char × List Char)
  | [] => none
  | '"' :: '"' :: '"' :: r => some (closingQuotes '"' r)
  | '"' :: r => consRead '"' (readLongBasic r)
  | '\\' :: r =>
    if endsLine r then readLongBasic (skipBlankLines r)
    else
      match escape? r with
      | some (c, n) => consRead c (readLongBasic (r.drop n))
      | none => none
  | '\r' :: '\n' :: r => consRead '\n' (readLongBasic r)
  | c :: r => if c = '\n' || isBasicChar c then consRead c (readLongBasic r) else none
termination_by s => s.length
decreasing_by
  · simp only [List.length_cons]
    omega
  · have := length_skipBlankLines_le r
    simp only [List.length_cons]
    omega
  · simp only [List.length_cons, List.length_drop]
    omega
  · simp only [List.length_cons]
    omega
  · simp only [List.length_cons]
    omega

/-- Reads a literal string of several lines to its closing apostrophes. -/
def readLongLiteral : List Char → Option (List Char × List Char)
  | [] => none
  | '\'' :: '\'' :: '\'' :: r => some (closingQuotes '\'' r)
  | '\'' :: r => consRead '\'' (readLongLiteral r)
  | '\r' :: '\n' :: r => consRead '\n' (readLongLiteral r)
  | c :: r => if c = '\n' || isLiteralChar c then consRead c (readLongLiteral r) else none

def readString : List Char → Option (List Char × List Char)
  | '"' :: '"' :: '"' :: r => readLongBasic (dropLineEnd r)
  | '"' :: r => readBasic r
  | '\'' :: '\'' :: '\'' :: r => readLongLiteral (dropLineEnd r)
  | '\'' :: r => readLiteral r
  | _ => none

/-! ## Writing -/

/-- Whether a character is an ASCII control character, tab and line feed apart. -/
def isControl (c : Char) : Bool := (c.toNat < 0x20 && c ≠ '\t' && c ≠ '\n') || c.toNat = 0x7F

/-- Whether `n` copies of a character stand in a row. -/
def hasRun (q : Char) (n : Nat) (s : List Char) : Bool :=
  (List.replicate n q).isPrefixOf s ||
    match s with
    | [] => false
    | _ :: r => hasRun q n r

/-- The upper case hex digit of a number below 16. -/
def upperHexDigit (n : Nat) : Char := if n < 10 then Char.ofNat (48 + n) else Char.ofNat (55 + n)

/-- A character of a basic string as it is written, quotes and line feeds apart. -/
def escaped (c : Char) : List Char :=
  if c = '\t' then ['\\', 't']
  else if c = '\r' then ['\\', 'r']
  else if c = '\\' then ['\\', '\\']
  else if c.toNat = 8 then ['\\', 'b']
  else if c.toNat = 12 then ['\\', 'f']
  else if isControl c then
    ['\\', 'u', '0', '0', upperHexDigit (c.toNat / 16), upperHexDigit (c.toNat % 16)]
  else [c]

/-- The inside of a basic string on one line. -/
def basicBody (s : List Char) : List Char :=
  s.flatMap fun c => if c = '"' then ['\\', '"'] else if c = '\n' then ['\\', 'n'] else escaped c

/-- The inside of a basic string of several lines; `run` quotes were written just before. -/
def longBasicBody (run : Nat) : List Char → List Char
  | [] => []
  | '"' :: r =>
    if run = 2 then '\\' :: '"' :: longBasicBody 0 r else '"' :: longBasicBody (run + 1) r
  | '\n' :: r => '\n' :: longBasicBody 0 r
  | c :: r => escaped c ++ longBasicBody 0 r

def onOneLine (q : Char) (body : List Char) : List Char := q :: body ++ [q]

/-- A body between tripled quotes, on a line of its own when it holds a line feed. -/
def onLines (q : Char) (hasLineFeed : Bool) (body : List Char) : List Char :=
  [q, q, q] ++ (if hasLineFeed then ['\n'] else []) ++ body ++ [q, q, q]

def written (s : List Char) : List Char :=
  let control := s.any isControl
  let newline := s.contains '\n'
  let backslash := s.contains '\\'
  if !control && !backslash && !newline && !s.contains '"' then onOneLine '"' (basicBody s)
  else if !control && !newline && !s.contains '\'' then onOneLine '\'' s
  else if !control && !backslash && !hasRun '"' 3 s then onLines '"' newline (longBasicBody 0 s)
  else if !control && !hasRun '\'' 3 s then onLines '\'' newline s
  else if newline then onLines '"' newline (longBasicBody 0 s)
  else onOneLine '"' (basicBody s)

/-- Whether a character may stand in a key without quotes. -/
def isBareChar (c : Char) : Bool := c.isAlphanum || c = '-' || c = '_'

/-- Whether a key may be written without quotes. -/
def isBareKey (s : List Char) : Bool := !s.isEmpty && s.all isBareChar

/-- The written form of a key inside an inline table. -/
def writtenKey (s : List Char) : List Char :=
  let control := s.any fun c => isControl c || c = '\n'
  if isBareKey s then s
  else if !control && !s.contains '\\' && !s.contains '"' then onOneLine '"' (basicBody s)
  else if !control && !s.contains '\'' then onOneLine '\'' s
  else onOneLine '"' (basicBody s)

end ValidatorKeys.Toml
