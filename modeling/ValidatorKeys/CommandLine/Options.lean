import ValidatorKeys.Text.Natural

/-!
# Options on a command line

A level of the command line is a list of options, and the names of the commands that may end it.  An
option is a flag, a flag that counts, an option with a value, or a request for help or the version.

A value is attached with `=` or follows as an argument of its own, unless that begins with a
hyphen.  A value is judged when the next option is met, or at the end: it may be missing, given
before, or of the wrong kind, in this order.  Behind `--` nothing is an option.
-/

namespace ValidatorKeys.CommandLine

/-! ## Options -/

/-- What may stand as the value of an option. -/
inductive ValueKind where
  | text
  | path
  | number
  | choice (names : List String)
  deriving Repr, DecidableEq

/-- What an option does. -/
inductive OptionKind where
  | count
  | switch
  | value (kind : ValueKind)
  | help
  | version
  deriving Repr, DecidableEq

structure OptionSpec where
  long : String
  short : Option Char := none
  kind : OptionKind
  deriving Repr, DecidableEq

structure LevelSpec where
  options : List OptionSpec
  commands : List String := []

/-- Why a command line was not understood, or what it asks for instead of a run. -/
inductive UsageError where
  | nothingGiven
  | commandMissing
  | helpWanted
  | versionWanted
  | unknownArgument
  | invalidCommand
  | invalidValue
  | invalidNumber
  | repeated
  | unneededValue
  deriving Repr, DecidableEq

/-- The exit code: requests for help and the version are no failures. -/
def UsageError.exitCode : UsageError → Nat
  | .helpWanted => 0
  | .versionWanted => 0
  | _ => 2

/-! ## Reading a level -/

/-- What was read of a level.  `pending` is the option that waits for a value, or whose value has
not been judged yet. -/
structure Level where
  given : List (String × String) := []
  pending : Option (OptionSpec × Option String) := none

namespace Level

def has (l : Level) (name : String) : Bool := l.given.any fun g => g.1 == name

/-- The value of an option. -/
def get? (l : Level) (name : String) : Option String :=
  (l.given.find? fun g => g.1 == name).map Prod.snd

def count (l : Level) (name : String) : Nat := (l.given.filter fun g => g.1 == name).length

/-- Whether an option waits for its value. -/
def waiting (l : Level) : Bool :=
  match l.pending with
  | some (_, none) => true
  | _ => false

def record (l : Level) (name value : String) : Level :=
  { l with given := l.given ++ [(name, value)] }

def judge (kind : ValueKind) (value : String) : Except UsageError Unit :=
  match kind with
  | .text => .ok ()
  | .path => if value = "" then .error .invalidValue else .ok ()
  | .number => if (Text.word? value.toList).isSome then .ok () else .error .invalidNumber
  | .choice names => if names.contains value then .ok () else .error .invalidValue

def accept (l : Level) (o : OptionSpec) (value : String) : Except UsageError Level :=
  if l.has o.long then .error .repeated
  else
    match o.kind with
    | .value kind => (judge kind value).map fun _ => l.record o.long value
    | _ => .error .unneededValue

def settle (l : Level) : Except UsageError Level :=
  match l.pending with
  | none => .ok l
  | some (_, none) => .error .invalidValue
  | some (o, some value) => { l with pending := none }.accept o value

def take (l : Level) (o : OptionSpec) : Except UsageError Level := do
  let l ← l.settle
  match o.kind with
  | .count => .ok (l.record o.long "")
  | .switch => if l.has o.long then .error .repeated else .ok (l.record o.long "")
  | .help => .error .helpWanted
  | .version => .error .versionWanted
  | .value _ => .ok { l with pending := some (o, none) }

/-- Takes a long option, with the value that is attached to it. -/
def takeLong (spec : LevelSpec) (l : Level) (name : String) (value : Option String) :
    Except UsageError Level :=
  match spec.options.find? fun o => o.long == name with
  | none => .error .unknownArgument
  | some o =>
    match value with
    | none => l.take o
    | some v =>
      match o.kind with
      | .value _ => do (← l.settle).accept o v
      | _ => .error .unneededValue

def takeShort (spec : LevelSpec) (l : Level) : List Char → Except UsageError Level
  | [] => .ok l
  | c :: rest =>
    match spec.options.find? fun o => o.short == some c with
    | none => .error .unknownArgument
    | some o => do (← l.take o).takeShort spec rest

end Level

/-- The name of a long option and the value attached to it. -/
def splitLong (s : List Char) : String × Option String :=
  let name := String.ofList (s.takeWhile (· ≠ '='))
  match s.dropWhile (· ≠ '=') with
  | [] => (name, none)
  | _ :: value => (name, some (String.ofList value))

/-- What an argument that is neither option nor value amounts to. -/
def strayArgument (spec : LevelSpec) (behindDashes : Bool) (arg : String) : UsageError :=
  if spec.commands.isEmpty then .unknownArgument
  else if behindDashes && spec.commands.contains arg then .unknownArgument
  else .invalidCommand

/-- Reads a level to its command, if it has one, with the arguments behind the command.  At the end
of the arguments the pending option is judged. -/
def readLevel (spec : LevelSpec) (l : Level) :
    List String → Except UsageError (Level × Option (String × List String))
  | [] => l.settle.map fun l => (l, none)
  | arg :: rest =>
    if !l.waiting && spec.commands.contains arg then .ok (l, some (arg, rest))
    else
      match arg.toList with
      | ['-', '-'] =>
        match rest with
        | [] => l.settle.map fun l => (l, none)
        | stray :: _ => .error (strayArgument spec true stray)
      | '-' :: '-' :: long => do
        let (name, value) := splitLong long
        readLevel spec (← l.takeLong spec name value) rest
      | '-' :: c :: short => do
        readLevel spec (← l.takeShort spec (c :: short)) rest
      | _ =>
        match l.pending with
        | some (o, none) => readLevel spec { l with pending := some (o, some arg) } rest
        | _ => .error (strayArgument spec false arg)

end ValidatorKeys.CommandLine
