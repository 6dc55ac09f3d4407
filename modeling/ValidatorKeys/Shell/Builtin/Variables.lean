import ValidatorKeys.Shell.Builtin.Arguments
import ValidatorKeys.Shell.Reading

/-!
# Commands for variables and options

Commands that hand variables on, fix them, take them away, keep them within a function, read them
from the input or from arguments, and that set the options and the arguments of the shell.
-/

namespace ValidatorKeys.Shell

open Kernel (Bytes Work)

/-! ## Attributes -/

/-- Gives variables an attribute, and a value where one stands with the name. -/
def mark (give : Variable → Variable) : List Bytes → Act Unit
  | [] => setStatus 0
  | s :: rest => do
    let (name, value) := nameAndValue s
    requireName name
    match value with
    | some value => assignText name value
    | none => pure ()
    modify fun f => f.put (give (f.variableOf name))
    mark give rest

/-- Gives an attribute to the variables that its arguments name. -/
def attributing (give : Variable → Variable) : Builtin where
  special := true
  perform _ _ args := do
    let (_, names) ← readOptions "p" args
    mark give names

def exportBuiltin : Builtin := attributing fun v => { v with exported := true }

/-- Fixes variables. -/
def readonlyBuiltin : Builtin := attributing fun v => { v with fixed := true }

/-- Keeps a variable of the caller: it comes back when the function ends. -/
def keep (name : Bytes) : Act Unit := do
  let f ← get
  match f.saved with
  | level :: outer =>
    if !(level.any fun s => s.1 == name) then
      set { f with saved := ((name, f.find? name) :: level) :: outer }
  | [] =>
    abort "not in a function".toList

/-- Makes variables that last as long as the function. -/
def localBuiltin : Builtin where
  special := true
  perform _ _ args := do
    if (← get).saved.isEmpty then keep []
    for s in args do
      let (name, value) := nameAndValue s
      requireName name
      keep name
      match value with
      | some value => assignText name value
      | none => modify fun f => f.put (f.variableOf name)
    setStatus 0

def Frame.restored (f : Frame) (level : List (Bytes × Option Variable)) : Frame :=
  level.foldl (fun f s =>
    match s with
    | (_, some v) => f.put v
    | (name, none) => f.drop name) f

def unsetBuiltin : Builtin where
  special := true
  perform _ _ args := do
    let (options, names) ← readOptions "vf" args
    for name in names do
      if given options 'f' then
        modify fun f => { f with functions := f.functions.filter fun p => p.1 ≠ name }
      else
        requireName name
        if ((← get).variableOf name).fixed then abort (name ++ ": is read only".toList)
        modify fun f => f.drop name
    setStatus 0

/-! ## Options and arguments -/

/-- Turns options on or off by their letters. -/
def setLetters (on : Bool) (letters : Bytes) : Act Unit := do
  for c in letters do
    match optionOfLetter? c with
    | some name => modify fun f => f.withOption name on
    | none => abort ("Illegal option -".toList ++ [c])

/-- Sets options in front of arguments; answers the arguments, or none when nothing is said of
them.  There are at most `n` words. -/
def setOptions : Nat → List Bytes → Act (Option (List Bytes))
  | 0, _ => pure none
  | _, [] => pure none
  | n + 1, s :: rest =>
    match s with
    | ['-', '-'] => pure (some rest)
    | ['-'] => do
      setLetters false ['x', 'v']
      if rest.isEmpty then pure none else pure (some rest)
    | sign :: letters => do
      if (sign = '-' ∨ sign = '+') ∧ !letters.isEmpty then
        let on := sign = '-'
        setLetters on (letters.filter (· ≠ 'o'))
        if letters.contains 'o' then
          match rest with
          | [] => pure none
          | name :: rest => do
            let text := String.ofList name
            if isOption text then
              modify fun f => f.withOption text on
              setOptions n rest
            else abort ("Illegal option -o ".toList ++ name)
        else setOptions n rest
      else pure (some (s :: rest))
    | [] => pure (some (s :: rest))

def setBuiltin : Builtin where
  special := true
  perform _ _ args := do
    match ← setOptions (args.length + 1) args with
    | some arguments =>
      modify fun f => { f with arguments := arguments, optionIndex := 1, optionOffset := 0 }
    | none => pure ()
    setStatus 0

/-- Drops arguments of the shell. -/
def shiftBuiltin : Builtin where
  special := true
  perform _ _ args := do
    let n ← countOf 1 args
    let f ← get
    if f.arguments.length < n then abort "can't shift that many".toList
    set { f with
      arguments := f.arguments.drop n, optionIndex := 1, optionOffset := 0, status := 0 }

/-! ## Options of scripts -/

/-- Sets a variable, whatever else hangs on it. -/
def assignPlain (name text : Bytes) : Act Unit := do
  requireName name
  if (← get).variableOf name |>.fixed then assignText name text
  else modify fun f => f.put { f.variableOf name with value := some text }

/-- Takes the next option from the arguments of a script.  `letters` names the options. -/
def nextOption (letters name : Bytes) (args : List Bytes) : Act Unit := do
  let f ← get
  let (index, offset) :=
    if args.length + 1 < f.optionIndex then (1, 0) else (f.optionIndex, f.optionOffset)
  let current := if index ≤ 1 ∨ offset = 0 then [] else (args.getD (index - 2) []).drop offset
  let finish (index offset : Nat) (c : Char) (status : Nat) : Act Unit := do
    modify fun f => f.put { f.variableOf "OPTIND".toList with
      value := some index.repr.toList }
    assignPlain name [c]
    modify fun f => { f with optionIndex := index, optionOffset := offset, status := status }
  let quiet := letters.head? = some ':'
  let unset : Act Unit := modify fun f => f.drop "OPTARG".toList
  let argument (s : Bytes) : Act Unit := assignPlain "OPTARG".toList s
  let proceed (c : Char) (rest : Bytes) (index : Nat) : Act Unit := do
    let offset := (args.getD (index - 2) []).length - rest.length
    match optionKind? (String.ofList letters) c with
    | none => do
      if quiet then argument [c]
      else
        tell ("Illegal option -".toList ++ [c, '\n'])
        unset
      finish index (if rest.isEmpty then 0 else offset) '?' 0
    | some false => do
      argument []
      finish index (if rest.isEmpty then 0 else offset) c 0
    | some true =>
      if !rest.isEmpty then do
        argument rest
        finish index 0 c 0
      else
        match args[index - 1]? with
        | some s => do
          argument s
          finish (index + 1) 0 c 0
        | none => do
          if quiet then
            argument [c]
            finish index 0 ':' 0
          else
            tell ("No arg for -".toList ++ c :: " option\n".toList)
            unset
            finish index 0 '?' 0
  match current with
  | c :: rest => proceed c rest index
  | [] =>
    match args[index - 1]? with
    | some ('-' :: c :: rest) =>
      if c = '-' ∧ rest.isEmpty then finish (index + 1) 0 '?' 1
      else proceed c rest (index + 1)
    | _ => finish index 0 '?' 1

/-- Takes the next option from arguments. -/
def getoptsBuiltin : Builtin where
  perform _ _ args := do
    match args with
    | [letters, name] => nextOption letters name (← get).arguments
    | letters :: name :: rest => nextOption letters name rest
    | _ => abort "Usage: getopts optstring var [arg...]".toList

/-! ## Input -/

def readBuiltin : Builtin where
  perform _ _ args := do
    let (options, names) ← readOptions "p:r" args
    if names.isEmpty then abort "arg count".toList
    let (line, found) ← work (Reading.takeLine (given options 'r') 0 Reading.joinLimit)
    let values := Reading.assign (← get).separators names.length line
    for (name, value) in names.zip values do
      requireName name
      assignText name value
    setStatus (if found then 0 else 1)

end ValidatorKeys.Shell
