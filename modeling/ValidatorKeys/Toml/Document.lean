import ValidatorKeys.Toml.Number
import ValidatorKeys.Toml.Section

/-!
# TOML documents

A document is read as statements, one to a line: headers of tables, headers of array elements, and
definitions of keys.  The statements are then carried out in order on an empty table.

Arrays and inline tables nest less than 80 levels deep, and a dotted key has less than 80 parts.
-/

namespace ValidatorKeys.Toml

/-! ## Statements -/

inductive Statement where
  | header (path : List String) (key : String)
  | element (path : List String) (key : String)
  | definition (path : List String) (key : String) (value : Value)

/-- Levels of nesting, and parts of a key, that are refused. -/
def nestingLimit : Nat := 80

/-! ## Blanks and comments -/

def skipSpaces (s : List Char) : List Char := s.dropWhile fun c => c = ' ' || c = '\t'

/-- Whether a character may stand in a comment. -/
def isCommentChar (c : Char) : Bool := c = '\t' || (' ' ≤ c && c.toNat ≠ 0x7F)

/-- The text behind the line ending that stands in front, or at the end of the document. -/
def readLineEnd : List Char → Option (List Char)
  | [] => some []
  | '\n' :: r => some r
  | '\r' :: '\n' :: r => some r
  | _ => none

/-- The text behind the rest of a line that may hold a comment. -/
def readLineRest (s : List Char) : Option (List Char) :=
  match skipSpaces s with
  | '#' :: r => readLineEnd (r.dropWhile isCommentChar)
  | s => readLineEnd s

/-- The text behind blanks, line endings and comments. -/
def skipGaps : Nat → List Char → List Char
  | 0, s => s
  | fuel + 1, s =>
    match skipSpaces s with
    | '\n' :: r => skipGaps fuel r
    | '\r' :: '\n' :: r => skipGaps fuel r
    | '#' :: r =>
      match r.dropWhile isCommentChar with
      | '\n' :: r => skipGaps fuel r
      | '\r' :: '\n' :: r => skipGaps fuel r
      | _ => '#' :: r
    | s => s

/-! ## Keys -/

def readKeyPart : List Char → Option (String × List Char)
  | '"' :: r => (readBasic r).map fun (cs, r) => (String.ofList cs, r)
  | '\'' :: r => (readLiteral r).map fun (cs, r) => (String.ofList cs, r)
  | s =>
    let cs := s.takeWhile isBareChar
    if cs.isEmpty then none else some (String.ofList cs, s.dropWhile isBareChar)

/-- Reads the parts of a dotted key, at most `fuel` of them. -/
def readKeyParts : Nat → List Char → Option (List String × List Char)
  | 0, _ => none
  | fuel + 1, s => do
    let (part, s) ← readKeyPart (skipSpaces s)
    match skipSpaces s with
    | '.' :: r =>
      let (parts, s) ← readKeyParts fuel r
      some (part :: parts, s)
    | s => some ([part], s)

def readKey (s : List Char) : Option ((List String × String) × List Char) := do
  let (parts, s) ← readKeyParts (nestingLimit - 1) s
  let last ← parts.getLast?
  some ((parts.dropLast, last), s)

/-! ## Values -/

/-- Reads the items of an array to the closing bracket. -/
def readItems (item : List Char → Option (Value × List Char)) :
    Nat → List Char → Option (List Value × List Char)
  | 0, _ => none
  | fuel + 1, s =>
    match skipGaps s.length s with
    | ']' :: r => some ([], r)
    | s => do
      let (v, s) ← item s
      match skipGaps s.length s with
      | ',' :: r =>
        let (vs, s) ← readItems item fuel r
        some (v :: vs, s)
      | ']' :: r => some ([v], r)
      | _ => none

/-- Reads the definitions of an inline table to the closing brace; at least one is there. -/
def readInlineFields (item : List Char → Option (Value × List Char)) :
    Nat → Section → List Char → Option (Section × List Char)
  | 0, _, _ => none
  | fuel + 1, table, s => do
    let ((path, key), s) ← readKey s
    let s ← readChar '=' s
    let (v, s) ← item (skipSpaces s)
    let table ← table.define path key v
    match skipSpaces s with
    | ',' :: r => readInlineFields item fuel table r
    | '\x7d' :: r => some (table, r)
    | _ => none

/-- Reads an inline table behind its opening brace. -/
def readInlineTable (item : List Char → Option (Value × List Char)) (s : List Char) :
    Option (Value × List Char) :=
  match skipSpaces s with
  | '\x7d' :: r => some (.table [], r)
  | s => (readInlineFields item s.length {} s).map fun (t, r) => (.table t.toTable, r)

def readPlain : List Char → Option (Value × List Char)
  | 't' :: 'r' :: 'u' :: 'e' :: r => some (.boolean true, r)
  | 'f' :: 'a' :: 'l' :: 's' :: 'e' :: r => some (.boolean false, r)
  | s =>
    if startsDate s || startsTime s then
      (readDateTime s).map fun (d, r) => (.dateTime d, r)
    else readNumber s

/-- Reads a value with at most `depth` levels of nesting. -/
def readValue : Nat → List Char → Option (Value × List Char)
  | _, '"' :: r => (readString ('"' :: r)).map fun (cs, r) => (.string (String.ofList cs), r)
  | _, '\'' :: r => (readString ('\'' :: r)).map fun (cs, r) => (.string (String.ofList cs), r)
  | 0, '[' :: _ => none
  | 0, '\x7b' :: _ => none
  | depth + 1, '[' :: r =>
    (readItems (readValue depth) (r.length + 1) r).map fun (vs, r) => (.array vs, r)
  | depth + 1, '\x7b' :: r => readInlineTable (readValue depth) r
  | _, s => readPlain s

/-! ## Lines -/

def readHeader (s : List Char) : Option (Statement × List Char) := do
  let ((path, key), s) ← readKey s
  let s ← readChar ']' s
  let s ← readLineRest s
  some (.header path key, s)

/-- Reads the header of an array element behind its opening brackets. -/
def readElement (s : List Char) : Option (Statement × List Char) := do
  let ((path, key), s) ← readKey s
  let s ← readChar ']' s
  let s ← readChar ']' s
  let s ← readLineRest s
  some (.element path key, s)

def readDefinition (s : List Char) : Option (Statement × List Char) := do
  let ((path, key), s) ← readKey s
  let s ← readChar '=' s
  let (v, s) ← readValue (nestingLimit - 1) (skipSpaces s)
  let s ← readLineRest s
  some (.definition path key v, s)

/-- Reads the statements of a document, with at most `fuel` lines. -/
def readStatements : Nat → List Char → Option (List Statement)
  | 0, _ => none
  | fuel + 1, s =>
    match skipSpaces s with
    | [] => some []
    | '\n' :: r => readStatements fuel r
    | '\r' :: '\n' :: r => readStatements fuel r
    | '#' :: r =>
      match readLineEnd (r.dropWhile isCommentChar) with
      | some r => readStatements fuel r
      | none => none
    | '[' :: '[' :: r => do
      let (statement, s) ← readElement r
      let statements ← readStatements fuel s
      some (statement :: statements)
    | '[' :: r => do
      let (statement, s) ← readHeader r
      let statements ← readStatements fuel s
      some (statement :: statements)
    | s => do
      let (statement, s) ← readDefinition s
      let statements ← readStatements fuel s
      some (statement :: statements)

/-! ## Documents -/

/-- Carries out statements on the root table; `current` is the path of the table under
definition. -/
def runStatements : List Statement → List String → Section → Option Section
  | [], _, root => some root
  | .header path key :: rest, _, root => do
    let root ← root.openTable path key
    runStatements rest (path ++ [key]) root
  | .element path key :: rest, _, root => do
    let root ← root.openElement path key
    runStatements rest (path ++ [key]) root
  | .definition path key v :: rest, current, root => do
    let root ← root.modify false (fun s => s.define path key v) current
    runStatements rest current root

def skipByteOrderMark : List Char → List Char
  | c :: r => if c = Char.ofNat 0xFEFF then r else c :: r
  | [] => []

def parse? (text : List Char) : Option Table := do
  let s := skipByteOrderMark text
  let statements ← readStatements (s.length + 1) s
  let root ← runStatements statements [] {}
  some root.toTable

end ValidatorKeys.Toml
