import ValidatorKeys.Text.Natural
import ValidatorKeys.Utility.Session

/-!
# Options of utilities

An option is a letter behind a dash, where several may stand together.  Options may stand behind
operands unless the utility runs another command; `--` ends them.
-/

namespace ValidatorKeys.Utility

open Kernel (Bytes)

/-- The options that a utility knows: letters, those that take a value with a colon behind them.
`inOrder` ends the options at the first operand. -/
structure Known where
  letters : String
  inOrder : Bool := false
  status : Nat := 1

abbrev Given := List (Char × Bytes)

namespace Given

def has (g : Given) (c : Char) : Bool := g.any fun o => o.1 == c

def last? (g : Given) (c : Char) : Option Bytes :=
  (g.reverse.find? fun o => o.1 == c).map Prod.snd

def all (g : Given) (c : Char) : List Bytes := (g.filter fun o => o.1 == c).map Prod.snd

end Given

/-- Whether a letter is an option, and whether it takes a value. -/
def Known.letter? (k : Known) (c : Char) : Option Bool :=
  if c = ':' then none
  else
    match k.letters.toList.dropWhile (· ≠ c) with
    | [] => none
    | _ :: rest => some (rest.head? = some ':')

/-- Why options are refused. -/
inductive OptionFault where
  | invalid (c : Char)
  | missing (c : Char)
  | unknown (word : Bytes)

def OptionFault.message : OptionFault → Bytes
  | .invalid c => "invalid option -- '".toList ++ [c, '\x27']
  | .missing c => "option requires an argument -- '".toList ++ [c, '\x27']
  | .unknown word => "unrecognized option '--".toList ++ word ++ ['\x27']

/-- The options among letters that share a dash, with the arguments behind. -/
def readLetters (k : Known) : Bytes → List Bytes → Except OptionFault (Given × List Bytes)
  | [], rest => .ok ([], rest)
  | c :: more, rest =>
    match k.letter? c with
    | none => .error (.invalid c)
    | some false => do
      let (g, rest) ← readLetters k more rest
      pure ((c, []) :: g, rest)
    | some true =>
      if !more.isEmpty then .ok ([(c, more)], rest)
      else
        match rest with
        | value :: rest => .ok ([(c, value)], rest)
        | [] => .error (.missing c)

/-- The options and the operands among arguments, of which there are at most `n`. -/
def readArguments (k : Known) : Nat → List Bytes → Except OptionFault (Given × List Bytes)
  | 0, args => .ok ([], args)
  | _, [] => .ok ([], [])
  | n + 1, s :: rest =>
    let go (r : Except OptionFault (Given × List Bytes)) :
        Except OptionFault (Given × List Bytes) := do
      let (g, rest) ← r
      let (others, operands) ← readArguments k n rest
      pure (g ++ others, operands)
    match s with
    | ['-', '-'] => .ok ([], rest)
    | '-' :: '-' :: word => .error (.unknown word)
    | '-' :: c :: more => go (readLetters k (c :: more) rest)
    | s =>
      if k.inOrder then .ok ([], s :: rest)
      else do
        let (g, operands) ← readArguments k n rest
        pure (g, s :: operands)

/-- The options and the operands of a utility; a fault ends it. -/
def arguments (k : Known) (args : List Bytes) : Run (Given × List Bytes) := do
  match readArguments k (args.length + 1) args with
  | .ok r => pure r
  | .error fault => do
    complain fault.message
    tell (advice (← get).name ++ ['\n'])
    close k.status

/-- The whole number that a text spells. -/
def natural? (s : Bytes) : Option Nat :=
  if !s.isEmpty && s.all Char.isDigit then some (Text.decimalValue s) else none

end ValidatorKeys.Utility
