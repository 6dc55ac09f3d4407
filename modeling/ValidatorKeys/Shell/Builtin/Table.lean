import ValidatorKeys.Shell.Builtin.Control
import ValidatorKeys.Shell.Builtin.Jobs
import ValidatorKeys.Shell.Builtin.Places
import ValidatorKeys.Shell.Builtin.Printing
import ValidatorKeys.Shell.Builtin.Variables

/-!
# The commands of the shell by name

Which commands a shell has to itself, and what it says of any name.
-/

namespace ValidatorKeys.Shell

open Kernel (Bytes Work)

/-! ## Table -/

def builtins : List (String × Builtin) :=
  [(":", doing true 0), ("true", doing false 0), ("false", doing false 1), ("echo", echoBuiltin),
    ("printf", printfBuiltin), ("test", testBuiltin false), ("[", testBuiltin true),
    ("read", readBuiltin), ("set", setBuiltin), ("shift", shiftBuiltin),
    ("export", exportBuiltin), ("readonly", readonlyBuiltin), ("local", localBuiltin),
    ("unset", unsetBuiltin), ("getopts", getoptsBuiltin), ("cd", cdBuiltin), ("pwd", pwdBuiltin),
    ("umask", umaskBuiltin), ("exit", exitBuiltin), ("return", returnBuiltin),
    ("break", leaving .leave), ("continue", leaving .again), ("eval", evalBuiltin),
    (".", sourceBuiltin), ("exec", execBuiltin), ("kill", killBuiltin), ("trap", trapBuiltin),
    ("wait", waitBuiltin)]

def namedBuiltin? (name : Bytes) : Option Builtin :=
  (builtins.find? fun b => b.1.toList == name).map Prod.snd

/-! ## What a name means -/

/-- The names of commands that the shell looks through before programs, beside those of the table. -/
def otherBuiltins : List String := ["command", "type"]

/-- What is said of a name: how it is called shortly, and how it is described. -/
def describe (path name : Bytes) : Act (Option (Bytes × Bytes)) := do
  let text := String.ofList name
  if Reader.reservedWords.contains text then pure (some (name, " is a shell keyword".toList))
  else if ((← get).function? name).isSome then
    pure (some (name, " is a shell function".toList))
  else
    match namedBuiltin? name, otherBuiltins.contains text with
    | some b, _ =>
      let word := if b.special && text ≠ "local" then "special " else ""
      pure (some (name, (" is a " ++ word ++ "shell builtin").toList))
    | none, true => pure (some (name, " is a shell builtin".toList))
    | none, false =>
      if name.contains '/' then
        if ← work (Work.onFiles fun t cwd => t.exists? cwd (Text.stringOfOctets name)) then
          pure (some (name, " is ".toList ++ name))
        else pure none
      else
        match ← work (Work.onFiles fun t cwd => locate path name t cwd) with
        | .error _ => pure none
        | .ok paths =>
          let found := paths.headD name
          pure (some (found, " is ".toList ++ found))

/-- Describes names; `short` calls them shortly. -/
def describeAll (short : Bool) (path : Bytes) : List Bytes → Act Unit
  | [] => pure ()
  | name :: rest => do
    match ← describe path name with
    | some (called, description) =>
      let _ ← say (if short then called ++ ['\n'] else name ++ description ++ ['\n'])
    | none =>
      if !short then
        let _ ← say (name ++ ": not found\n".toList)
      setStatus 127
    describeAll short path rest

def typeBuiltin : Builtin where
  perform _ _ args := do
    setStatus 0
    describeAll false (pathOf (← get)) args

end ValidatorKeys.Shell
