import ValidatorKeys.Shell.Running

/-!
# Arguments of commands of the shell

Options stand in front, several letters behind one dash, and `--` ends them.  A number has digits
alone.
-/

namespace ValidatorKeys.Shell

open Kernel (Bytes)

/-- A command of the shell: how it is run, and whether it is one whose failure ends the shell. -/
structure Builtin where
  special : Bool := false
  perform : Running → Standing → List Bytes → Act Unit

/-- Whether the letters of options have one, and whether an argument belongs to it. -/
def optionKind? (letters : String) (c : Char) : Option Bool :=
  if c = ':' then none
  else
    match letters.toList.dropWhile (· ≠ c) with
    | [] => none
    | _ :: rest => some (rest.head? = some ':')

/-- The options among letters that share a dash, and the arguments behind them. -/
def readLetters (letters : String) : Bytes → List Bytes → Act (List (Char × Bytes) × List Bytes)
  | [], rest => pure ([], rest)
  | c :: more, rest =>
    match optionKind? letters c with
    | none => abort ("Illegal option -".toList ++ [c])
    | some false => do
      let (options, rest) ← readLetters letters more rest
      pure ((c, []) :: options, rest)
    | some true =>
      if !more.isEmpty then pure ([(c, more)], rest)
      else
        match rest with
        | value :: rest => pure ([(c, value)], rest)
        | [] => abort ("No arg for -".toList ++ c :: " option".toList)

/-- The options in front of the arguments, and the arguments, of which there are at most `n`. -/
def readOptionsWithin (letters : String) :
    Nat → List Bytes → Act (List (Char × Bytes) × List Bytes)
  | 0, args => pure ([], args)
  | _, [] => pure ([], [])
  | n + 1, s :: rest =>
    match s with
    | '-' :: c :: more =>
      if c = '-' ∧ more.isEmpty then pure ([], rest)
      else do
        let (options, rest) ← readLetters letters (c :: more) rest
        let (others, rest) ← readOptionsWithin letters n rest
        pure (options ++ others, rest)
    | _ => pure ([], s :: rest)

def readOptions (letters : String) (args : List Bytes) :
    Act (List (Char × Bytes) × List Bytes) :=
  readOptionsWithin letters args.length args

def given (options : List (Char × Bytes)) (c : Char) : Bool := options.any fun o => o.1 == c

/-- The greatest number that arguments may spell. -/
def greatestNumber : Nat := 2147483647

def numberOf (s : Bytes) : Act Nat := do
  if !s.isEmpty && s.all Char.isDigit && Text.decimalValue s ≤ greatestNumber then
    pure (Text.decimalValue s)
  else abort ("Illegal number: ".toList ++ s)

def countOf (default : Nat) : List Bytes → Act Nat
  | s :: _ => numberOf s
  | [] => pure default

def nameAndValue (s : Bytes) : Bytes × Option Bytes :=
  let name := s.takeWhile (· ≠ '=')
  match s.drop name.length with
  | [] => (name, none)
  | _ :: value => (name, some value)

/-- Stops where a name is none. -/
def requireName (name : Bytes) : Act Unit := do
  if !isName name then abort (name ++ ": bad variable name".toList)

/-- Writes what a command of the shell prints; a failure of that is its failure. -/
def print (text : Bytes) : Act Unit := do
  if ← say text then setStatus 0
  else
    match (← get).command with
    | some name => complain (name ++ ": I/O error".toList)
    | none => complain "I/O error".toList
    setStatus 1

end ValidatorKeys.Shell
