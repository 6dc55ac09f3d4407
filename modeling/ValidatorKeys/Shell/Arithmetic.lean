import ValidatorKeys.Shell.Syntax
import ValidatorKeys.Text.Blank

/-!
# Arithmetic expressions

Whole numbers of 64 bits with the operators of C.  A name stands for the number that its variable
holds, and may be assigned to.  `/` and `%` truncate toward zero; comparisons and logical operators
answer 0 or 1; a side that does not decide is not evaluated.
-/

namespace ValidatorKeys.Shell.Arithmetic

open Kernel (Bytes)

/-- What is wrong with an expression. -/
inductive Fault where
  | expectingPrimary
  | expectingEnd
  | expectingParenthesis
  | expectingColon
  | divisionByZero
  | illegalNumber (text : Bytes)
  deriving Repr, DecidableEq

/-- A part of an expression. -/
inductive Lexeme where
  | number (n : Int)
  | name (text : Bytes)
  | symbol (text : String)
  | stray (text : Bytes)
  deriving Repr, DecidableEq

/-- A whole number wrapped to 64 bits. -/
def wrap (n : Int) : Int := n.bmod (Nat.pow 2 64)

/-- The greatest number. -/
def greatest : Int := Int.pow 2 63 - 1

def least : Int := -Int.pow 2 63

/-! ## Numbers -/

/-- The value of a digit in bases up to thirty-six. -/
def digitValue (c : Char) : Nat :=
  if c.isDigit then c.toNat - 48
  else if 'a' ≤ c ∧ c ≤ 'z' then c.toNat - 87
  else if 'A' ≤ c ∧ c ≤ 'Z' then c.toNat - 55
  else 99

/-- The digits of a base at the start of a text, and what follows them. -/
def digitsOf (base : Nat) (s : Bytes) : Bytes × Bytes :=
  (s.takeWhile fun c => digitValue c < base, s.dropWhile fun c => digitValue c < base)

def valueOf (base : Nat) (ds : Bytes) : Nat := ds.foldl (fun n c => base * n + digitValue c) 0

/-- The number without a sign at the start of a text, and what follows it.  In base zero `0x` opens
base sixteen and `0` base eight. -/
def unsigned? (base : Nat) (s : Bytes) : Option (Nat × Bytes) :=
  let plain (base : Nat) (s : Bytes) : Option (Nat × Bytes) :=
    let (ds, rest) := digitsOf base s
    if ds.isEmpty then none else some (valueOf base ds, rest)
  match base, s with
  | 0, '0' :: x :: d :: r =>
    if (x = 'x' ∨ x = 'X') ∧ digitValue d < 16 then plain 16 (d :: r) else plain 8 s
  | 0, '0' :: _ => plain 8 s
  | 0, s => plain 10 s
  | base, s => plain base s

/-- The number at the start of a text behind blanks and a sign, and what follows it. -/
def signed? (base : Nat) (s : Bytes) : Option (Int × Bytes) :=
  match s.dropWhile Text.isBlank with
  | '-' :: r => (unsigned? base r).map fun (n, rest) => (-(n : Int), rest)
  | '+' :: r => (unsigned? base r).map fun (n, rest) => ((n : Int), rest)
  | r => (unsigned? base r).map fun (n, rest) => ((n : Int), rest)

/-- A number kept within the bounds. -/
def clamp (n : Int) : Int := max least (min greatest n)

/-- The number that a whole text spells, blanks around it apart; it has to lie within the bounds. -/
def numberOf? (base : Nat) (s : Bytes) : Option Int :=
  match signed? base s with
  | some (n, rest) =>
    if rest.all Text.isBlank && least ≤ n && n ≤ greatest then some n else none
  | none => if base = 0 ∧ s.all Text.isBlank then some 0 else none

/-! ## Lexemes -/

def symbols : List String :=
  ["<<=", ">>=", "||", "&&", "==", "!=", "<=", ">=", "<<", ">>", "*=", "/=", "%=", "+=", "-=",
    "&=", "^=", "|=", "=", "+", "-", "*", "/", "%", "(", ")", "<", ">", "&", "|", "^", "!", "~",
    "?", ":"]

/-- The lexemes of an expression, read in at most as many steps as it has characters. -/
def lexemes (s : Bytes) : List Lexeme :=
  go s.length s
where
  go : Nat → Bytes → List Lexeme
    | _, [] => []
    | 0, _ => []
    | n + 1, c :: r =>
      if c = ' ' ∨ c = '\t' ∨ c = '\n' then go n r
      else if isNameStart c then .name (c :: r.takeWhile isNameChar) :: go n (r.dropWhile isNameChar)
      else if c.isDigit then
        match unsigned? 0 (c :: r) with
        | some (k, rest) => .number (clamp k) :: go n rest
        | none => [.stray (c :: r)]
      else
        match symbols.find? fun t => t.toList.isPrefixOf (c :: r) with
        | some t => .symbol t :: go n ((c :: r).drop t.length)
        | none => [.stray (c :: r)]

/-! ## Values -/

/-- How tightly an operator between two operands binds; the tightest has the highest number. -/
def precedence : String → Option Nat
  | "|" => some 3
  | "^" => some 4
  | "&" => some 5
  | "==" => some 6
  | "!=" => some 6
  | "<" => some 7
  | "<=" => some 7
  | ">" => some 7
  | ">=" => some 7
  | "<<" => some 8
  | ">>" => some 8
  | "+" => some 9
  | "-" => some 9
  | "*" => some 10
  | "/" => some 10
  | "%" => some 10
  | _ => none

/-- The number of a truth value. -/
def ofBool (b : Bool) : Int := if b then 1 else 0

/-- The bits of a number. -/
def bits (n : Int) : BitVec 64 := BitVec.ofInt 64 n

/-- The value of an operator between two operands. -/
def combine (symbol : String) (a b : Int) : Except Fault Int :=
  match symbol with
  | "|" => .ok (bits a ||| bits b).toInt
  | "^" => .ok (bits a ^^^ bits b).toInt
  | "&" => .ok (bits a &&& bits b).toInt
  | "==" => .ok (ofBool (a == b))
  | "!=" => .ok (ofBool (a != b))
  | "<" => .ok (ofBool (a < b))
  | "<=" => .ok (ofBool (a ≤ b))
  | ">" => .ok (ofBool (b < a))
  | ">=" => .ok (ofBool (b ≤ a))
  | "<<" => .ok ((bits a) <<< ((bits b).toNat % 64)).toInt
  | ">>" => .ok ((bits a).sshiftRight ((bits b).toNat % 64)).toInt
  | "+" => .ok (wrap (a + b))
  | "-" => .ok (wrap (a - b))
  | "*" => .ok (wrap (a * b))
  | "/" => if b = 0 then .error .divisionByZero else .ok (wrap (a.tdiv b))
  | "%" => if b = 0 then .error .divisionByZero else .ok (wrap (a.tmod b))
  | _ => .error .expectingEnd

/-- Operators that assign, each with the operator that is applied first. -/
def assigning : List (String × Option String) :=
  [("=", none), ("*=", some "*"), ("/=", some "/"), ("%=", some "%"), ("+=", some "+"),
    ("-=", some "-"), ("<<=", some "<<"), (">>=", some ">>"), ("&=", some "&"), ("^=", some "^"),
    ("|=", some "|")]

/-- What an expression is evaluated with: the lexemes that are left, and the variables that were
assigned to, the last one first. -/
structure Evaluation where
  rest : List Lexeme
  assigned : List (Bytes × Int) := []

/-- A step of an evaluation. -/
abbrev Eval := StateT Evaluation (Except Fault)

/-- The next lexeme. -/
def peek : Eval (Option Lexeme) := do pure (← get).rest.head?

/-- Passes over the next lexeme. -/
def advance : Eval Unit := modify fun e => { e with rest := e.rest.tail }

/-- Passes over a symbol if it is next; answers whether it was. -/
def accept (symbol : String) : Eval Bool := do
  if (← peek) = some (.symbol symbol) then
    advance
    pure true
  else pure false

def assign (name : Bytes) (n : Int) : Eval Unit :=
  modify fun e => { e with assigned := (name, n) :: e.assigned }

section

variable (value : Bytes → Except Fault Int)

def numberOf (name : Bytes) : Eval Int := do
  match (← get).assigned.find? fun a => a.1 == name with
  | some (_, n) => pure n
  | none =>
    match value name with
    | .ok n => pure n
    | .error f => throw f

mutual

/-- An operand with the signs in front of it; what is idle is read and not evaluated. -/
def operand (idle : Bool) : Nat → Eval Int
  | 0 => throw .expectingPrimary
  | n + 1 => do
    match ← peek with
    | some (.number k) => do
      advance
      pure k
    | some (.name x) => do
      advance
      if idle then pure 0 else numberOf value x
    | some (.symbol "-") => do
      advance
      pure (wrap (-(← operand idle n)))
    | some (.symbol "+") => do
      advance
      operand idle n
    | some (.symbol "!") => do
      advance
      pure (ofBool ((← operand idle n) == 0))
    | some (.symbol "~") => do
      advance
      pure (wrap (-(← operand idle n) - 1))
    | some (.symbol "(") => do
      advance
      let k ← assignment idle n
      if ← accept ")" then pure k else throw .expectingParenthesis
    | _ => throw .expectingPrimary

/-- Goes on behind the operand `a` as long as operators bind at least as tightly as `level`. -/
def operators (idle : Bool) (level : Nat) (a : Int) : Nat → Eval Int
  | 0 => pure a
  | n + 1 => do
    match ← peek with
    | some (.symbol s) =>
      match precedence s with
      | none => pure a
      | some p =>
        if p < level then pure a
        else do
          advance
          let b ← operand idle n
          let b ← operators idle (p + 1) b n
          let c ← if idle then pure b else liftM (combine s a b)
          operators idle level c n
    | _ => pure a

/-- Operands joined by `&&`. -/
def both (idle : Bool) : Nat → Eval Int
  | 0 => throw .expectingPrimary
  | n + 1 => do
    let a ← operators idle 0 (← operand idle n) n
    if ← accept "&&" then
      let b ← both (idle || a == 0) n
      pure (ofBool (a != 0 && b != 0))
    else pure a

/-- Operands joined by `||`. -/
def either (idle : Bool) : Nat → Eval Int
  | 0 => throw .expectingPrimary
  | n + 1 => do
    let a ← both idle n
    if ← accept "||" then
      let b ← either (idle || a != 0) n
      pure (ofBool (a != 0 || b != 0))
    else pure a

/-- An expression with the conditional operator. -/
def choice (idle : Bool) : Nat → Eval Int
  | 0 => throw .expectingPrimary
  | n + 1 => do
    let a ← either idle n
    if ← accept "?" then
      let yes ← assignment (idle || a == 0) n
      if ← accept ":" then
        let no ← choice (idle || a != 0) n
        pure (if a != 0 then yes else no)
      else throw .expectingColon
    else pure a

def assignment (idle : Bool) : Nat → Eval Int
  | 0 => throw .expectingPrimary
  | n + 1 => do
    match (← get).rest with
    | .name x :: .symbol s :: rest =>
      match assigning.find? fun a => a.1 == s with
      | some (_, operator) => do
        modify fun e => { e with rest := rest }
        let b ← assignment idle n
        if idle then pure b
        else
          let k ← match operator with
            | some o => do
              let a ← numberOf value x
              liftM (combine o a b)
            | none => pure b
          assign x k
          pure k
      | none => choice idle n
    | _ => choice idle n

end

/-- The value of an expression, and the variables that it assigns to, in order. -/
def evaluate (s : Bytes) : Except Fault (Int × List (Bytes × Int)) := do
  let ls := lexemes s
  let (a, e) ← (assignment value false (12 * ls.length + 24)).run { rest := ls }
  if e.rest.isEmpty then pure (a, e.assigned.reverse) else throw .expectingEnd

end

end ValidatorKeys.Shell.Arithmetic
