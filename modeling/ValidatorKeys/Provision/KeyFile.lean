import ValidatorKeys.Key.SeedLine
import ValidatorKeys.Node.RunError
import ValidatorKeys.Provision.Session

/-!
# The key file

Generation hands its keys to insertion in a file with one record to a line.  Opening it empties it;
a file made anew is open to its owner only.  Records are added where the one before ended.
-/

namespace ValidatorKeys

/-- Failure to write or to read a key file. -/
inductive KeyFileError where
  | write (path : String) (cause : FileError)
  | read (path : String) (cause : FileError)
  deriving Repr, DecidableEq

namespace KeyFileError

def message : KeyFileError → String
  | .write path cause => "failed to write key file " ++ path ++ ": " ++ cause.message
  | .read path cause => "failed to read key file " ++ path ++ ": " ++ cause.message

def cause? : KeyFileError → Option FileError
  | .write _ cause => some cause
  | .read _ cause => some cause

end KeyFileError

/-- A key file that is open for writing. -/
structure KeyWriter where
  path : String
  location : Location
  position : Nat := 0
  written : Nat := 0

namespace KeyFile

/-- Permission bits of a key file made anew. -/
def mode : Nat := 0o600

/-- Opens the key file at a path and empties it. -/
def create (t : FileTree) (cwd path : String) : Except KeyFileError (KeyWriter × FileTree) :=
  match t.openEmpty cwd path mode with
  | .ok (l, t) => .ok (⟨path, l, 0, 0⟩, t)
  | .error e => .error (.write path e)

/-- Adds a record at the end of what the writer wrote. -/
def append (t : FileTree) (w : KeyWriter) (r : Record) :
    Except KeyFileError (KeyWriter × FileTree) :=
  match t.writeAt w.location w.position r.bytes with
  | .ok t => .ok ({ w with position := w.position + r.bytes.size, written := w.written + 1 }, t)
  | .error e => .error (.write w.path e)

def readLines (t : FileTree) (cwd path : String) : Except KeyFileError (List (List Char)) :=
  match t.readText cwd path with
  | .ok text => .ok (Text.lines text.toList)
  | .error e => .error (.read path e)

end KeyFile

/-- Failure of a pass: a command or the key file. -/
inductive PassError where
  | run (error : RunError)
  | keyFile (error : KeyFileError)
  deriving Repr, DecidableEq

namespace PassError

def message : PassError → String
  | .run e => e.message
  | .keyFile e => e.message

def cause? : PassError → Option FileError
  | .run e => e.cause?
  | .keyFile e => e.cause?

end PassError

namespace Run

variable {σ : Type}

/-- Issues a command within a pass. -/
def command (r : Runner σ) (c : Command) (input : String) : Run σ PassError String :=
  mapError .run (issue r c (some input))

/-- An operation that may change the files. -/
def changeFiles {α : Type} (f : FileTree → Except KeyFileError (α × FileTree)) :
    Run σ PassError α := fun s =>
  match f s.files with
  | .ok (a, t) => (.ok a, { s with files := t })
  | .error e => (.error (.keyFile e), s)

end Run

end ValidatorKeys
