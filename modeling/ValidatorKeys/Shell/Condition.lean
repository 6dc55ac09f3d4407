import ValidatorKeys.File.Question
import ValidatorKeys.Shell.Arithmetic
import ValidatorKeys.Text.Octets

/-!
# Conditions in single brackets

What `test` and `[` decide.  The number of arguments comes first: a comparison of three is one
whatever its ends look like, and of four a negation or a pair of parentheses is taken off.  Anything
else is read as a disjunction of conjunctions, in which a word counts as an operator only where an
operand can follow it.
-/

namespace ValidatorKeys.Shell.Condition

open Kernel (Bytes)

/-! ## Faults -/

/-- Why a condition cannot be decided. -/
inductive Fault where
  | unexpectedOperator (text : Bytes)
  | argumentExpected (operator : Bytes)
  | unclosed
  | illegalNumber (text : Bytes)
  | missingBracket
  deriving Repr, DecidableEq

/-- The text of a fault; an empty operator is not named. -/
def Fault.message : Fault → Bytes
  | .unexpectedOperator [] => "unexpected operator".toList
  | .unexpectedOperator s => s ++ ": unexpected operator".toList
  | .argumentExpected s => s ++ ": argument expected".toList
  | .unclosed => "closing paren expected".toList
  | .illegalNumber s => "Illegal number: ".toList ++ s
  | .missingBracket => "missing ]".toList

/-! ## Operators -/

inductive Kind where
  | unary
  | binary
  | negation
  | conjunction
  | disjunction
  | opening
  | closing
  deriving Repr, DecidableEq

/-- The operators that compare two operands. -/
def comparisons : List String :=
  ["=", "!=", "<", ">", "-eq", "-ne", "-gt", "-ge", "-lt", "-le", "-nt", "-ot", "-ef"]

def kind? (s : Bytes) : Option Kind :=
  let text := String.ofList s
  if comparisons.contains text then some .binary
  else
    match s with
    | ['!'] => some .negation
    | ['('] => some .opening
    | [')'] => some .closing
    | ['-', 'a'] => some .conjunction
    | ['-', 'o'] => some .disjunction
    | ['-', c] => if "rwxfdcbpugkstznhLOGSe".toList.contains c then some .unary else none
    | _ => none

/-- How two numbers are compared. -/
def comparison? : String → Option (Int → Int → Bool)
  | "-eq" => some fun a b => a == b
  | "-ne" => some fun a b => a != b
  | "-lt" => some fun a b => a < b
  | "-le" => some fun a b => a ≤ b
  | "-gt" => some fun a b => b < a
  | "-ge" => some fun a b => b ≤ a
  | _ => none

/-- Whether a character is a blank around a number. -/
def isBlank (c : Char) : Bool := c = ' ' || (9 ≤ c.toNat && c.toNat ≤ 13)

/-- The number that a text spells, blanks around it apart. -/
def number (s : Bytes) : Except Fault Int :=
  match Arithmetic.signed? 10 (s.dropWhile isBlank) with
  | some (n, rest) =>
    if rest.all isBlank ∧ Arithmetic.least ≤ n ∧ n ≤ Arithmetic.greatest then .ok n
    else .error (.illegalNumber s)
  | none => .error (.illegalNumber s)

def askOne (t : FileTree) (cwd : String) (question : Char) (s : Bytes) : Except Fault Bool :=
  match question with
  | 'n' => .ok !s.isEmpty
  | 'z' => .ok s.isEmpty
  | 't' => (number s).map fun _ => false
  | q => .ok (t.ask cwd q (Text.stringOfOctets s))

/-- Whether one text stands before another. -/
def precedes : Bytes → Bytes → Bool
  | [], [] => false
  | [], _ => true
  | _, [] => false
  | a :: s, b :: t => a < b || (a == b && precedes s t)

def askTwo (t : FileTree) (cwd : String) (a operator b : Bytes) : Except Fault Bool :=
  let path := Text.stringOfOctets
  match String.ofList operator with
  | "=" => .ok (a == b)
  | "!=" => .ok (a != b)
  | "<" => .ok (precedes a b)
  | ">" => .ok (precedes b a)
  | "-ef" => .ok (t.isSame cwd (path a) (path b))
  | "-nt" => .ok (t.exists? cwd (path a) && !t.exists? cwd (path b))
  | "-ot" => .ok (!t.exists? cwd (path a) && t.exists? cwd (path b))
  | op =>
    match comparison? op with
    | some compare => do
      let x ← number a
      let y ← number b
      pure (compare x y)
    | none => .error (.unexpectedOperator operator)

/-! ## Reading -/

/-- What stands at the start of the arguments. -/
inductive Lexeme where
  | ended
  | operand
  | operator (kind : Kind)
  deriving Repr, DecidableEq

/-- Whether the word behind a first one makes that one an operand. -/
def isOperand : List Bytes → Bool
  | [] => true
  | [_] => false
  | s :: _ => kind? s == some .binary

def lexeme : List Bytes → Lexeme
  | [] => .ended
  | s :: rest =>
    match kind? s with
    | none => .operand
    | some .unary => if isOperand rest then .operand else .operator .unary
    | some .opening => if rest.isEmpty then .operand else .operator .opening
    | some k => .operator k

section

variable (t : FileTree) (cwd : String)

mutual

/-- A disjunction whose first lexeme is `l`: its answer, and the arguments from its last one on. -/
def either (l : Lexeme) (args : List Bytes) : Nat → Except Fault (Bool × List Bytes)
  | 0 => .ok (false, [])
  | n + 1 => do
    let (a, args) ← both l args n
    if lexeme args.tail = .operator .disjunction then
      let rest := args.drop 2
      let (b, args) ← either (lexeme rest) rest n
      pure (a || b, args)
    else pure (a, args)

def both (l : Lexeme) (args : List Bytes) : Nat → Except Fault (Bool × List Bytes)
  | 0 => .ok (false, [])
  | n + 1 => do
    let (a, args) ← negated l args n
    if lexeme args.tail = .operator .conjunction then
      let rest := args.drop 2
      let (b, args) ← both (lexeme rest) rest n
      pure (a && b, args)
    else pure (a, args)

/-- A primary with negations in front. -/
def negated (l : Lexeme) (args : List Bytes) : Nat → Except Fault (Bool × List Bytes)
  | 0 => .ok (false, [])
  | n + 1 =>
    if l = .operator .negation then do
      let next := lexeme args.tail
      let (a, args) ← negated next (if next = .ended then args else args.tail) n
      pure (!a, args)
    else primary l args n

/-- An operand, a question, a comparison, or a condition in parentheses. -/
def primary (l : Lexeme) (args : List Bytes) : Nat → Except Fault (Bool × List Bytes)
  | 0 => .ok (false, [])
  | n + 1 =>
    match l, args with
    | .ended, args => .ok (false, args)
    | .operator .opening, _ :: rest =>
      if lexeme rest = .operator .closing then .ok (false, rest)
      else do
        let (a, args) ← either (lexeme rest) rest n
        if lexeme args.tail = .operator .closing then pure (a, args.tail)
        else throw .unclosed
    | .operator .unary, operator :: rest =>
      match rest with
      | [] => .error (.argumentExpected operator)
      | s :: _ => do pure (← askOne t cwd (operator.getLastD 'e') s, rest)
    | _, a :: rest =>
      match lexeme rest, rest with
      | .operator .binary, operator :: rest =>
        match rest with
        | [] => .error (.argumentExpected operator)
        | b :: _ => do pure (← askTwo t cwd a operator b, rest)
      | _, _ => .ok (!a.isEmpty, a :: rest)
    | _, [] => .ok (false, [])

end

/-- The answer of arguments that are read as a whole. -/
def readAll (l : Lexeme) (args : List Bytes) : Except Fault Bool := do
  let (a, rest) ← either t cwd l args (8 * args.length + 8)
  match rest with
  | s :: _ :: _ => throw (.unexpectedOperator s)
  | _ => pure a

/-- The answer of arguments, by their number first. -/
def decideAll (args : List Bytes) : Except Fault Bool :=
  match args with
  | [] => .ok false
  | [a, operator, b] =>
    if kind? operator = some .binary then readAll t cwd .operand [a, operator, b]
    else if a = ['('] ∧ b = [')'] then readAll t cwd (lexeme [operator]) [operator]
    else if a = ['!'] then (decideAll [operator, b]).map not
    else readAll t cwd (lexeme [a, operator, b]) [a, operator, b]
  | [a, b, c, d] =>
    if a = ['('] ∧ d = [')'] then readAll t cwd (lexeme [b, c]) [b, c]
    else if a = ['!'] then (decideAll [b, c, d]).map not
    else readAll t cwd (lexeme [a, b, c, d]) [a, b, c, d]
  | args => readAll t cwd (lexeme args) args

/-- The answer of the arguments of `[`, the last of which closes it. -/
def decideBracket (args : List Bytes) : Except Fault Bool :=
  if args.getLast? = some [']'] then decideAll t cwd args.dropLast else .error .missingBracket

end

end ValidatorKeys.Shell.Condition
