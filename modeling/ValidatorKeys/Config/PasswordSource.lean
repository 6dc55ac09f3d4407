import ValidatorKeys.Environment
import ValidatorKeys.Key.Password

/-!
# Where the password comes from

A password file if one is named, else the variable `KEYFORGE_PASSWORD`.  Of a file, the line
endings at its end do not belong to the password.  Nothing is asked for where nobody can answer.
-/

namespace ValidatorKeys

/-- Why there is no password. -/
inductive PasswordError where
  | unreadable (path : String) (cause : FileError)
  | empty (source : String)
  | unavailable
  deriving Repr, DecidableEq

namespace PasswordError

def message : PasswordError → String
  | .unreadable path cause => "failed to read password file " ++ path ++ ": " ++ cause.message
  | .empty source => "password from " ++ source ++ " is empty"
  | .unavailable =>
    "no keystore password available: pass --password-file or set KEYFORGE_PASSWORD"

def cause? : PasswordError → Option FileError
  | .unreadable _ cause => some cause
  | _ => none

end PasswordError

namespace Password

/-- The variable that holds the password. -/
def variableName : String := "KEYFORGE_PASSWORD"

/-- The text without the line ending characters at its end. -/
def dropLineEnds (s : List Char) : List Char :=
  (s.reverse.dropWhile fun c => c = '\r' || c = '\n').reverse

/-- The password of this text; `source` names where it came from. -/
def fromSource (source text : String) : Except PasswordError Password :=
  match ofText? text with
  | some p => .ok p
  | none => .error (.empty source)

def resolve (t : FileTree) (e : Environment) (file : Option String) :
    Except PasswordError Password :=
  match file with
  | some path =>
    match t.readText e.directory path with
    | .error cause => .error (.unreadable path cause)
    | .ok content => fromSource path (String.ofList (dropLineEnds content.toList))
  | none =>
    match e.get? variableName with
    | some value => fromSource variableName value
    | none => .error .unavailable

end Password

end ValidatorKeys
