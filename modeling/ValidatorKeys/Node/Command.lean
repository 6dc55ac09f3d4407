import ValidatorKeys.Key.Scheme

/-!
# Commands

A command is a program and its arguments.  The node is asked to generate a key of a scheme, and to
insert a key under a key type; both read the password, and the latter the seed, from standard
input.
-/

namespace ValidatorKeys

/-- A program and its arguments. -/
structure Command where
  program : String
  args : List String
  deriving Repr, DecidableEq

namespace Command

/-- The command of an argument vector; none when it is empty. -/
def ofArgv? : List String → Option Command
  | [] => none
  | program :: args => some ⟨program, args⟩

/-- A command as text: program and arguments with spaces between. -/
def text (c : Command) : String := String.intercalate " " (c.program :: c.args)

end Command

def generateCommand (node : String) (s : Scheme) : Command :=
  ⟨node, ["key", "generate", "--scheme", s.name, "--password-interactive"]⟩

/-- The command that puts a key into the node's keystore. -/
def insertCommand (node : String) (b : Binding) : Command :=
  ⟨node, ["key", "insert", "--scheme", b.scheme.name, "--password-interactive", "--key-type",
    b.keyType.label]⟩

end ValidatorKeys
