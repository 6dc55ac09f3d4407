import ValidatorKeys.Utility.Options
import ValidatorKeys.Utility.Sorting

/-!
# Calculating

`expr` takes an expression apart, one argument an operand or an operator, and prints its value.  A
value is a text or a whole number of any size; a text that spells a whole number counts as one.
What cannot matter any more is read but not evaluated.
-/

namespace ValidatorKeys.Utility

open Kernel (Bytes)

namespace Calculating

/-- A step that takes arguments away from the front, or fails with a message.  The argument that was
taken last stands first. -/
abbrev Reader := StateT (Bytes × List Bytes) (Except Bytes)

/-! ## Values -/

/-- The whole number that a text spells. -/
def integer? (s : Bytes) : Option Int :=
  match s with
  | '-' :: ds => (natural? ds).map fun n => -(n : Int)
  | ds => (natural? ds).map fun n => (n : Int)

def ofInteger (n : Int) : Bytes :=
  if n < 0 then '-' :: n.natAbs.repr.toList else n.natAbs.repr.toList

/-- Whether a value counts as nothing: no text, or zeros. -/
def isNull (s : Bytes) : Bool :=
  match s with
  | [] => true
  | '-' :: ds => !ds.isEmpty && ds.all (· = '0')
  | ds => ds.all (· = '0')

/-- The result of a comparison, by number where both sides are numbers. -/
def compare (operator : String) (a b : Bytes) : Bool :=
  let r : Ordering := match integer? a, integer? b with
    | some m, some n => if m < n then .lt else if n < m then .gt else .eq
    | _, _ => compareBytes a b
  match operator with
  | "<" => r == .lt
  | "<=" => r != .gt
  | "!=" => r != .eq
  | ">=" => r != .lt
  | ">" => r == .gt
  | _ => r == .eq

/-- The value of an operation on numbers. -/
def calculate (operator : String) (a b : Bytes) : Except Bytes Bytes :=
  match integer? a, integer? b with
  | some m, some n =>
    match operator with
    | "+" => .ok (ofInteger (m + n))
    | "-" => .ok (ofInteger (m - n))
    | "*" => .ok (ofInteger (m * n))
    | operator =>
      if n = 0 then .error "division by zero".toList
      else .ok (ofInteger (if operator = "/" then m.tdiv n else m.tmod n))
  | _, _ => .error "non-integer argument".toList

/-- The value of an operator of any kind; `live` is false where it cannot matter. -/
def apply (live : Bool) (operator : String) (a b : Bytes) : Except Bytes Bytes :=
  match operator with
  | "|" => .ok (if !isNull a then a else if isNull b then ['0'] else b)
  | "&" => .ok (if isNull a || isNull b then ['0'] else a)
  | operator =>
    if !live then .ok a
    else if ["+", "-", "*", "/", "%"].contains operator then calculate operator a b
    else .ok (if compare operator a b then ['1'] else ['0'])

/-! ## Reading -/

/-- The operators from the loosest to the tightest. -/
def levels : List (List String) :=
  [["|"], ["&"], ["<", "<=", "=", "==", "!=", ">=", ">"], ["+", "-"], ["*", "/", "%"]]

/-- Takes the next argument away. -/
def skip : Reader Unit := modify fun (last, args) => (args.headD last, args.tail)

/-- Takes the next argument away if it is one of some words; answers which. -/
def take (words : List String) : Reader (Option String) := do
  match (← get).2 with
  | [] => pure none
  | s :: _ =>
    match words.find? fun w => w.toList == s with
    | some w => do
      skip
      pure (some w)
    | none => pure none

mutual

/-- Reads operands with the operators of some levels between them. -/
def operation (live : Bool) (operators : List (List String)) : Nat → Reader Bytes
  | 0 => pure []
  | n + 1 =>
    match operators with
    | [] => operand live n
    | level :: tighter => do
      let a ← operation live tighter n
      moreOperands live level tighter a n

/-- Reads on behind the first operand of a level. -/
def moreOperands (live : Bool) (level : List String) (tighter : List (List String)) (a : Bytes) :
    Nat → Reader Bytes
  | 0 => pure a
  | n + 1 => do
    match ← take level with
    | none => pure a
    | some operator => do
      let matters := if operator = "|" then isNull a else if operator = "&" then !isNull a else true
      let b ← operation (live && matters) tighter n
      moreOperands live level tighter (← liftM (apply live operator a b)) n

/-- Reads an operand: a length, an expression in parentheses, or a text. -/
def operand (live : Bool) : Nat → Reader Bytes
  | 0 => pure []
  | n + 1 => do
    let (last, args) ← get
    match args with
    | [] => throw ("syntax error: missing argument after ".toList ++ quote last)
    | s :: _ => do
      skip
      match String.ofList s with
      | "length" => do
        let a ← operand live n
        pure a.length.repr.toList
      | "(" => do
        let a ← operation live levels n
        match ← get with
        | (last, []) => throw ("syntax error: expecting ')' after ".toList ++ quote last)
        | (_, [')'] :: _) => do
          skip
          pure a
        | (_, b :: _) => throw ("syntax error: expecting ')' instead of ".toList ++ quote b)
      | ")" => throw "syntax error: unexpected ')'".toList
      | _ => pure s

end

def value (args : List Bytes) : Except Bytes Bytes := do
  let (a, _, rest) ← (operation true levels (20 * args.length + 20)).run ([], args)
  match rest with
  | [] => pure a
  | s :: _ => throw ("syntax error: unexpected argument ".toList ++ quote s)

end Calculating

open Calculating in
/-- Prints the value of an expression; the status tells whether it is nothing. -/
def expr (args : List Bytes) : Run Unit := do
  onWriteStatus 3
  let args := if args.head? = some ['-', '-'] then args.tail else args
  if args.isEmpty then refuse 2 "missing operand".toList
  match value args with
  | .error text => abort 2 text
  | .ok s => do
    outLine s
    fail (if isNull s then 1 else 0)

end ValidatorKeys.Utility
