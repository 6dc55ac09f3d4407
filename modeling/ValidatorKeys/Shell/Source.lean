import ValidatorKeys.Shell.Syntax

/-!
# Reading the characters of a script

A reader goes through the text of a script and counts its lines.  A backslash before a line feed
joins two lines and is passed over wherever a character is looked for.  Documents that are written
behind a line are read when that line ends: their words come from an earlier reading of the same
text, which found them.
-/

namespace ValidatorKeys.Shell

open Kernel (Bytes)

inductive Token where
  | ended
  | newline
  | symbol (text : String)
  | redirection (descriptor : Option Nat) (kind : RedirectionKind) (strip : Bool)
  | word (w : Word) (quoted : Bool)

/-- A document that is to be read when the line ends. -/
structure Promise where
  index : Nat
  delimiter : Bytes
  strip : Bool
  verbatim : Bool
  deriving Repr, DecidableEq

/-- What is left of a script, and what is known of it. -/
structure Source where
  rest : Bytes
  line : Nat := 1
  pushed : Option Token := none
  promises : List Promise := []
  documents : Nat := 0
  nested : Nat := 0
  found : List (Nat × Word) := []
  known : List (Nat × Word) := []
  dialect : Dialect := .plain

/-- A step of reading a script. -/
abbrev Reader := StateT Source (Except SyntaxFault)

namespace Reader

def fail {α : Type} (f : Nat → SyntaxFault) : Reader α := do throw (f (← get).line)

/-- What is left, without joints of lines in front, and how many of these there were. -/
def dropJoints : Bytes → Bytes × Nat
  | '\\' :: '\n' :: r =>
    let (rest, n) := dropJoints r
    (rest, n + 1)
  | s => (s, 0)

def look : Reader (Option Char) := do
  let s ← get
  match s.rest with
  | '\\' :: '\n' :: _ =>
    let (rest, n) := dropJoints s.rest
    set { s with rest := rest, line := s.line + n }
    pure rest.head?
  | rest => pure rest.head?

/-- Passes over the next character. -/
def skip : Reader Unit := modify fun s =>
  match s.rest with
  | '\n' :: r => { s with rest := r, line := s.line + 1 }
  | _ :: r => { s with rest := r }
  | [] => s

/-- The next character as it stands, which is passed over. -/
def takeRaw : Reader (Option Char) := do
  let c := (← get).rest.head?
  skip
  pure c

def lookTwo : Reader (Option Char × Option Char) := do
  let c ← look
  match (← get).rest with
  | _ :: r => pure (c, (dropJoints r).1.head?)
  | [] => pure (c, none)

/-- Passes over a character if it is next; answers whether it was. -/
def accept (c : Char) : Reader Bool := do
  if (← look) = some c then
    skip
    pure true
  else pure false

/-- Takes characters as long as they are of a kind, at most `n`. -/
def takeWhile (p : Char → Bool) : Nat → Reader Bytes
  | 0 => pure []
  | n + 1 => do
    match ← look with
    | some c =>
      if p c then
        skip
        pure (c :: (← takeWhile p n))
      else pure []
    | none => pure []

def push (t : Token) : Reader Unit := modify fun s => { s with pushed := some t }

/-! ## Quotes -/

/-- The text up to the closing single quote. -/
def singleQuoted : Reader Bytes := do
  let s ← get
  let text := s.rest.takeWhile (· ≠ '\x27')
  let line := s.line + text.count '\n'
  match s.rest.dropWhile (· ≠ '\x27') with
  | [] => throw (.unterminatedQuotes line)
  | _ :: rest =>
    set { s with rest := rest, line := line }
    pure text

/-- The text up to the closing backquote; a backslash keeps a backquote, a backslash or a dollar,
and between double quotes a double quote. -/
def backquoted (inQuotes : Bool) : Bytes → Option (Bytes × Bytes)
  | [] => none
  | '\x60' :: r => some ([], r)
  | '\\' :: '\n' :: r => backquoted inQuotes r
  | '\\' :: c :: r =>
    (backquoted inQuotes r).map fun (s, r) =>
      (if c = '\x60' ∨ c = '\\' ∨ c = '$' ∨ (c = '"' ∧ inQuotes) then (c :: s, r)
        else ('\\' :: c :: s, r))
  | c :: r => (backquoted inQuotes r).map fun (s, r) => (c :: s, r)

/-! ## Documents -/

/-- Whether a line ends in a backslash that joins it to the next one. -/
def isJoined (line : Bytes) : Bool := (line.reverse.takeWhile (· = '\\')).length % 2 = 1

/-- The lines of a document in front of its delimiter, and what follows it, in at most `n` lines.
`joined` tells that the line belongs to the one before. -/
def takeDocument (p : Promise) : Nat → Bool → Bytes → Bytes × Bytes
  | 0, _, s => ([], s)
  | _, _, [] => ([], [])
  | n + 1, joined, s =>
    let s := if p.strip && !joined then s.dropWhile (· = '\t') else s
    let line := s.takeWhile (· ≠ '\n')
    let rest := s.dropWhile (· ≠ '\n')
    if !joined && line = p.delimiter then ([], rest.tail)
    else
      let (text, after) := takeDocument p n (!p.verbatim && isJoined line) rest.tail
      (line ++ rest.take 1 ++ text, after)

end Reader

end ValidatorKeys.Shell
