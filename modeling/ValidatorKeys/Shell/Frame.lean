import ValidatorKeys.Kernel.Behaviour
import ValidatorKeys.Shell.Syntax
import ValidatorKeys.Text.Natural

/-!
# The state of a shell

A shell has variables, functions, options, arguments and traps of its own; a subshell starts with a
copy of them.  Everything else that scripts change is the machine's.  A step of a script may stop it
early: it leaves a loop or a function, ends the shell, or fails.
-/

namespace ValidatorKeys.Shell

open Kernel (Bytes Work Ending)

/-! ## State -/

structure Variable where
  name : Bytes
  value : Option Bytes := none
  exported : Bool := false
  fixed : Bool := false
  deriving Repr, DecidableEq

/-- A child that runs in the background, and how it ended if that is known. -/
structure Job where
  process : Nat
  ending : Option Ending := none
  deriving Repr, DecidableEq

/-- What a shell has to itself; `line` is that of the command which is run, and `readLine` the last
one that was read. -/
structure Frame where
  dialect : Dialect := .plain
  name : Bytes := []
  arguments : List Bytes := []
  vars : List Variable := []
  saved : List (List (Bytes × Option Variable)) := []
  functions : List (Bytes × Statement) := []
  options : List String := []
  traps : List (Nat × Bytes) := []
  line : Nat := 1
  readLine : Nat := 1
  status : Nat := 0
  outputStatus : Nat := 0
  shell : Nat := 0
  background : Option Nat := none
  jobs : List Job := []
  loops : Nat := 0
  calls : Nat := 0
  optionIndex : Nat := 1
  optionOffset : Nat := 0
  command : Option Bytes := none
  isSubshell : Bool := false
  trapped : Option Nat := none

/-- Why a script stops before its end. -/
inductive Stop where
  | exit (status : Nat)
  | failed (status : Nat)
  | leave (levels : Nat)
  | again (levels : Nat)
  | back
  deriving Repr, DecidableEq

/-- A step of a script. -/
abbrev Act := ExceptT Stop (StateT Frame Work)

/-- Work of a process as a step of a script. -/
def work {α : Type} (w : Work α) : Act α := ExceptT.lift (StateT.lift w)

/-! ## Options -/

def optionTable : List (String × Option Char) :=
  [("errexit", some 'e'), ("noglob", some 'f'), ("ignoreeof", some 'I'), ("interactive", some 'i'),
    ("monitor", some 'm'), ("noexec", some 'n'), ("stdin", some 's'), ("xtrace", some 'x'),
    ("verbose", some 'v'), ("vi", some 'V'), ("emacs", some 'E'), ("noclobber", some 'C'),
    ("allexport", some 'a'), ("notify", some 'b'), ("nounset", some 'u'), ("nolog", none),
    ("debug", none)]

def optionOfLetter? (c : Char) : Option String :=
  (optionTable.find? fun o => o.2 == some c).map Prod.fst

def isOption (name : String) : Bool := optionTable.any fun o => o.1 == name

/-! ## Variables -/

namespace Frame

def find? (f : Frame) (name : Bytes) : Option Variable := f.vars.find? fun v => v.name == name

/-- The text of a variable. -/
def get? (f : Frame) (name : Bytes) : Option Bytes := (f.find? name).bind Variable.value

/-- The text of a variable with a name of this program. -/
def named? (f : Frame) (name : String) : Option Bytes := f.get? name.toList

/-- The frame with a variable in place of one with its name. -/
def put (f : Frame) (v : Variable) : Frame :=
  if f.vars.any fun w => w.name == v.name then
    { f with vars := f.vars.map fun w => if w.name == v.name then v else w }
  else { f with vars := f.vars ++ [v] }

def drop (f : Frame) (name : Bytes) : Frame :=
  { f with vars := f.vars.filter fun v => v.name != name }

/-- The variable with a name, or a fresh one. -/
def variableOf (f : Frame) (name : Bytes) : Variable := (f.find? name).getD { name := name }

/-- Whether an option is on. -/
def has (f : Frame) (option : String) : Bool := f.options.contains option

def withOption (f : Frame) (option : String) (on : Bool) : Frame :=
  let others := f.options.filter (· ≠ option)
  { f with options := if on then option :: others else others }

/-- The frame as it looks for options of a script from an argument on again. -/
def withOptionIndex (f : Frame) (text : Bytes) : Frame :=
  let n := if text.all Char.isDigit then Text.decimalValue text else 1
  { f with optionIndex := max 1 n, optionOffset := 0 }

/-- The frame with a variable set; all variables are exported where that is an option. -/
def set (f : Frame) (name text : Bytes) : Frame :=
  let v := f.variableOf name
  let f := f.put { v with value := some text, exported := v.exported || f.has "allexport" }
  if name = "OPTIND".toList then f.withOptionIndex text else f

/-- The frame with a variable set that is handed on to programs. -/
def putExported (f : Frame) (name : String) (text : Bytes) : Frame :=
  f.put { f.variableOf name.toList with value := some text, exported := true }

/-- The characters that separate fields. -/
def separators (f : Frame) : Bytes := (f.named? "IFS").getD [' ', '\t', '\n']

/-- The function with a name. -/
def function? (f : Frame) (name : Bytes) : Option Statement :=
  (f.functions.find? fun p => p.1 == name).map Prod.snd

end Frame

/-! ## Steps -/

def setStatus (status : Nat) : Act Unit := modify fun f => { f with status := status }

/-- Writes to the output; answers whether that was possible. -/
def say (text : Bytes) : Act Bool := do
  if text.isEmpty then pure true
  else
    match ← work (Work.write 1 text) with
    | .ok _ => pure true
    | .error _ => pure false

/-- Writes to the stream for errors. -/
def tell (text : Bytes) : Act Unit := do
  let _ ← work (Work.write 2 text)

def complaintStart (f : Frame) (line : Nat) : Bytes :=
  f.name ++ ": ".toList ++ line.repr.toList ++ ": ".toList

/-- Writes a line of complaint with the name of the shell, the line of the script, and the command
of the shell that is running in front. -/
def complain (text : Bytes) : Act Unit := do
  let f ← get
  tell (complaintStart f f.line ++
    (match f.command with
      | some c => c ++ ": ".toList
      | none => []) ++ text ++ ['\n'])

def abort {α : Type} (text : Bytes) : Act α := do
  complain text
  throw (.failed 2)

/-- Sets the text of a variable; one that is fixed stays as it is, and that is a failure. -/
def assignText (name text : Bytes) : Act Unit := do
  let f ← get
  if (f.variableOf name).fixed then
    abort (name ++ ": is read only".toList)
  else set (f.set name text)

end ValidatorKeys.Shell
