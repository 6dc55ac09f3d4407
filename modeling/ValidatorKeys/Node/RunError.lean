import ValidatorKeys.File.Error
import ValidatorKeys.Node.Command

/-!
# Failures of external commands

A tool that is not there, a command that cannot be started, one that fails, and one that runs too
long.  `message` is the text of a failure, and `cause?` what lies beneath it; `withCause` puts the
two together with a colon between them.
-/

namespace ValidatorKeys

/-- Why an external command gave no output. -/
inductive RunError where
  | missingTool (name : String)
  | spawn (command : String) (cause : FileError)
  | failed (command status stderr : String)
  | timedOut (command : String) (seconds : Nat)
  deriving Repr, DecidableEq

namespace RunError

def message : RunError → String
  | .missingTool name => name ++ " is not installed or not found in PATH"
  | .spawn command cause => "failed to run `" ++ command ++ "`: " ++ cause.message
  | .failed command status stderr => "`" ++ command ++ "` failed (" ++ status ++ "): " ++ stderr
  | .timedOut command seconds => "`" ++ command ++ "` timed out after " ++ seconds.repr ++ "s"

def cause? : RunError → Option FileError
  | .spawn _ cause => some cause
  | _ => none

end RunError

/-- A text with the cause beneath it behind a colon. -/
def withCause (message : String) : Option FileError → String
  | some cause => message ++ ": " ++ cause.message
  | none => message

end ValidatorKeys
