/-!
# Errors of the operating system

Why an operation on a file or a process can fail, and the text of each cause.  `message` is the text
with the number that the system gives to the cause behind it.
-/

namespace ValidatorKeys

/-- Cause of a failed operation. -/
inductive FileError where
  | notFound
  | accessDenied
  | notDirectory
  | isDirectory
  | noSpace
  | nameTooLong
  | notExecutable
  | notText
  | nulInPath
  | nulInCommand
  | badDescriptor
  | alreadyExists
  | brokenPipe
  | argumentsTooLong
  | tooManyLinks
  | textBusy
  deriving Repr, DecidableEq

namespace FileError

def text : FileError → String
  | .notFound => "No such file or directory"
  | .accessDenied => "Permission denied"
  | .notDirectory => "Not a directory"
  | .isDirectory => "Is a directory"
  | .noSpace => "No space left on device"
  | .nameTooLong => "File name too long"
  | .notExecutable => "Exec format error"
  | .notText => "stream did not contain valid UTF-8"
  | .nulInPath => "file name contained an unexpected NUL byte"
  | .nulInCommand => "nul byte found in provided data"
  | .badDescriptor => "Bad file descriptor"
  | .alreadyExists => "File exists"
  | .brokenPipe => "Broken pipe"
  | .argumentsTooLong => "Argument list too long"
  | .tooManyLinks => "Too many levels of symbolic links"
  | .textBusy => "Text file busy"

/-- The number of a cause; causes that the system does not know have none. -/
def number? : FileError → Option Nat
  | .notFound => some 2
  | .argumentsTooLong => some 7
  | .notExecutable => some 8
  | .badDescriptor => some 9
  | .accessDenied => some 13
  | .alreadyExists => some 17
  | .notDirectory => some 20
  | .isDirectory => some 21
  | .textBusy => some 26
  | .noSpace => some 28
  | .brokenPipe => some 32
  | .nameTooLong => some 36
  | .tooManyLinks => some 40
  | .notText => none
  | .nulInPath => none
  | .nulInCommand => none

/-- The text of a cause with its number. -/
def message (e : FileError) : String :=
  match e.number? with
  | some n => e.text ++ " (os error " ++ n.repr ++ ")"
  | none => e.text

end FileError

end ValidatorKeys
