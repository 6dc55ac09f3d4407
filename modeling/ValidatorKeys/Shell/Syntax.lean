import ValidatorKeys.Kernel.Machine

/-!
# What scripts are made of

A script is a row of statements, and a statement is made of words.  A word is a row of pieces: text
that stands for itself, text between quotes, and expansions of three kinds, each of which knows
whether it stands between double quotes.  Scripts are written in one of two dialects.
-/

namespace ValidatorKeys.Shell

open Kernel (Bytes)

/-- The dialect of a script: the plain one, or the one that also has conditions in double brackets and
lists in braces. -/
inductive Dialect where
  | plain
  | extended
  deriving Repr, DecidableEq

/-- What is made of the value of a parameter.  `colon` treats an empty value like one that is
unset. -/
inductive Form where
  | plain
  | length
  | fallback (colon : Bool)
  | assign (colon : Bool)
  | require (colon : Bool)
  | instead (colon : Bool)
  | cut (suffix longest : Bool)
  | malformed
  deriving Repr, DecidableEq

/-- What a redirection does with the word behind it. -/
inductive RedirectionKind where
  | input
  | output
  | append
  | overwrite
  | both
  | duplicate (writing : Bool)
  | document
  deriving Repr, DecidableEq

mutual

inductive Piece where
  | literal (text : Bytes)
  | quoted (text : Bytes)
  | parameter (name : Bytes) (form : Form) (argument : List Piece) (inQuotes : Bool)
  | output (body : Statement) (inQuotes : Bool)
  | value (expression : List Piece) (inQuotes : Bool)

inductive Redirection where
  | redirection (descriptor : Nat) (kind : RedirectionKind) (target : List Piece)

/-- A condition in double brackets. -/
inductive Test where
  | word (w : List Piece)
  | unary (operator : Bytes) (w : List Piece)
  | binary (left : List Piece) (operator : Bytes) (right : List Piece)
  | negated (t : Test)
  | both (s t : Test)
  | either (s t : Test)

inductive Statement where
  | nothing
  | simple (line : Nat) (assignments : List (Bytes × List Piece)) (words : List (List Piece))
      (redirections : List Redirection)
  | sequence (first second : Statement)
  | both (first second : Statement)
  | either (first second : Statement)
  | negated (body : Statement)
  | pipeline (parts : List Statement)
  | background (body : Statement)
  | conditional (test yes : Statement) (no : Option Statement)
  | loop (untilTrue : Bool) (test body : Statement)
  | each (line : Nat) (name : Bytes) (items : Option (List (List Piece))) (body : Statement)
  | choice (line : Nat) (subject : List Piece) (arms : List (List (List Piece) × Statement))
  | redirected (line : Nat) (body : Statement) (redirections : List Redirection)
  | subshell (line : Nat) (body : Statement) (redirections : List Redirection)
  | define (line : Nat) (name : Bytes) (body : Statement)
  | condition (line : Nat) (test : Test)

end

abbrev Word := List Piece

/-- A variable with the word that is assigned to it. -/
abbrev Assignment := Bytes × Word

/-! ## Characters of names -/

/-- Whether a name may begin with this character. -/
def isNameStart (c : Char) : Bool := c.isAlpha || c = '_'

/-- Whether a name may go on with this character. -/
def isNameChar (c : Char) : Bool := c.isAlphanum || c = '_'

def isName : Bytes → Bool
  | [] => false
  | c :: r => isNameStart c && r.all isNameChar

/-! ## Words -/

namespace Word

def addLiteral (c : Char) : Word → Word
  | .literal s :: rest => .literal (c :: s) :: rest
  | w => .literal [c] :: w

def addQuoted (c : Char) : Word → Word
  | .quoted s :: rest => .quoted (c :: s) :: rest
  | w => .quoted [c] :: w

/-- The text of a word that is written without quotes and expansions. -/
def bare? : Word → Option Bytes
  | [.literal s] => some s
  | _ => none

/-- The text of a word without expansions, its quotes taken away. -/
def unquoted (w : Word) : Bytes :=
  w.flatMap fun p =>
    match p with
    | .literal s => s
    | .quoted s => s
    | _ => []

def assignment? : Word → Option Assignment
  | .literal s :: rest =>
    let name := s.takeWhile (· ≠ '=')
    match s.dropWhile (· ≠ '=') with
    | [] => none
    | _ :: value =>
      if isName name then some (name, if value.isEmpty then rest else .literal value :: rest)
      else none
  | _ => none

end Word

/-! ## Faults -/

/-- What stands wrong in a script. -/
inductive SyntaxFault where
  | unexpected (line : Nat) (found : String) (expected : Option String)
  | unterminatedQuotes (line : Nat)
  | missing (line : Nat) (closer : String)
  | unterminatedBackquotes (line : Nat)
  | badFunctionName (line : Nat)
  | badLoopVariable (line : Nat)
  | badDescriptor (line : Nat)
  deriving Repr, DecidableEq

namespace SyntaxFault

def line : SyntaxFault → Nat
  | .unexpected l _ _ => l
  | .unterminatedQuotes l => l
  | .missing l _ => l
  | .unterminatedBackquotes l => l
  | .badFunctionName l => l
  | .badLoopVariable l => l
  | .badDescriptor l => l

def message : SyntaxFault → String
  | .unexpected _ found expected =>
    found ++ " unexpected" ++
      match expected with
      | some e => " (expecting " ++ e ++ ")"
      | none => ""
  | .unterminatedQuotes _ => "Unterminated quoted string"
  | .missing _ closer => "Missing '" ++ closer ++ "'"
  | .unterminatedBackquotes _ => "EOF in backquote substitution"
  | .badFunctionName _ => "Bad function name"
  | .badLoopVariable _ => "Bad for loop variable"
  | .badDescriptor _ => "Bad fd number"

end SyntaxFault

end ValidatorKeys.Shell
