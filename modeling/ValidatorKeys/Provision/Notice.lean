import ValidatorKeys.Node.Command
import ValidatorKeys.Text.Escaped
import ValidatorKeys.Text.Styled

/-!
# Notices of a run

What a run tells the operator while it goes: phases, commands, keys and skips.  Each notice may have
a progress line, which `--quiet` suppresses, and a log entry, which the log's filter may hold back.
-/

namespace ValidatorKeys

open Text (Style paint)

/-- Levels of the log, from the gravest on. -/
inductive LogLevel where
  | error
  | warn
  | info
  | debug
  deriving Repr, DecidableEq

namespace LogLevel

/-- Position in the order of levels; the gravest has the least. -/
def rank : LogLevel → Nat
  | .error => 0
  | .warn => 1
  | .info => 2
  | .debug => 3

def name : LogLevel → String
  | .error => "ERROR"
  | .warn => "WARN"
  | .info => "INFO"
  | .debug => "DEBUG"

end LogLevel

def toolName : String := "keyforge"

/-- An entry of the log: its level, the part of the tool that it comes from, what it says, and
fields with their values. -/
structure LogEntry where
  level : LogLevel
  part : List String
  message : String
  fields : List (String × String)
  deriving Repr, DecidableEq

namespace LogEntry

/-- The target of an entry: the name of the tool and the part, joined by two colons. -/
def target (e : LogEntry) : String := String.intercalate "::" (toolName :: e.part)

/-- An entry as a line: level, message and fields. -/
def text (e : LogEntry) : String :=
  e.level.name ++ " " ++ e.message ++
    String.join (e.fields.map fun f => " " ++ f.1 ++ "=" ++ f.2)

/-- Whether an entry has a field of this name; the message counts as one. -/
def hasField (e : LogEntry) (name : String) : Bool :=
  name == "message" || e.fields.any fun f => f.1 == name

end LogEntry

/-- Something worth telling. -/
inductive Notice where
  | buildStarted (command : Command)
  | generationStarted
  | insertionStarted
  | commandSpawned (command : Command)
  | commandRan (command : Command)
  | commandFailed (command : Command)
  | toolFound (name : String)
  | roundStarted (round total : Nat)
  | keyGenerated (scheme : Scheme) (fingerprint : Option String)
  | seedMissing (scheme : Scheme)
  | keyFileWritten (path : String) (records : Nat)
  | keyInserting (binding : Binding) (fingerprint : String)
  | keyMissing (binding : Binding)
  | insertionComplete (consumed : Nat)
  | schemeNeverGenerated (binding : Binding)
  | invalidRounds (value : String)
  | manifestSorted (path : String)
  deriving DecidableEq

namespace Notice

/-- The progress line of a notice. -/
def progress? (colours : Bool) : Notice → Option String
  | .buildStarted c => some ("  " ++ paint colours .strong ("Building node: " ++ c.text))
  | .generationStarted => some ("  " ++ paint colours .strong "Generating keys...")
  | .insertionStarted => some ("  " ++ paint colours .strong "Inserting keys...")
  | .commandRan c =>
    some ("  " ++ paint colours (.strongIn .green) "✔" ++ " " ++ paint colours .faint "ran" ++ " " ++
      c.text)
  | .commandFailed c =>
    some ("  " ++ paint colours (.strongIn .red) "✖" ++ " " ++
      paint colours (.coloured .red) "failed" ++ " " ++ c.text)
  | .seedMissing s =>
    some ("  " ++ paint colours (.strongIn .yellow) "⚠" ++ " no secret seed in " ++ s.name ++
      " key output, skipping")
  | .keyMissing b =>
    some ("  " ++ paint colours (.strongIn .yellow) "⚠" ++ " no unused " ++ b.scheme.name ++
      " key for " ++ paint colours .strong b.keyType.label ++ ", skipping")
  | _ => none

/-- The warning of a notice, which is shown even to those who want no progress. -/
def warning? : Notice → Option String
  | .invalidRounds value => some ("Warning: ignoring invalid KEYFORGE_ROUNDS value: " ++ value)
  | _ => none

/-- The log entry of a notice. -/
def logged? : Notice → Option LogEntry
  | .commandSpawned c => some ⟨.debug, ["process"], "spawned", [("command", c.text)]⟩
  | .toolFound name =>
    some ⟨.debug, ["process"], "found required tool", [("tool", Text.escaped name)]⟩
  | .roundStarted round total =>
    some ⟨.info, ["orchestrator"], "starting round",
      [("round", round.repr), ("total", total.repr)]⟩
  | .keyGenerated s fingerprint =>
    some ⟨.info, ["keys", "generate"], "generated key",
      [("scheme", s.name), ("fingerprint",
        match fingerprint with
        | some f => "Some(" ++ Text.escaped f ++ ")"
        | none => "None")]⟩
  | .seedMissing s =>
    some ⟨.warn, ["keys", "generate"], "generate output had no secret seed line",
      [("scheme", s.name)]⟩
  | .keyFileWritten path records =>
    some ⟨.debug, ["keys", "generate"], "key file written",
      [("path", path), ("records", records.repr)]⟩
  | .keyInserting b fingerprint =>
    some ⟨.info, ["keys", "insert"], "inserting key",
      [("binding", b.name), ("fingerprint", fingerprint)]⟩
  | .keyMissing b =>
    some ⟨.warn, ["keys", "insert"], "no matching key to insert", [("binding", b.name)]⟩
  | .insertionComplete consumed =>
    some ⟨.debug, ["keys", "insert"], "insert pass complete", [("consumed", consumed.repr)]⟩
  | .schemeNeverGenerated b =>
    some ⟨.warn, ["config", "loader"],
      "binding scheme is never generated; it will always be skipped", [("binding", b.name)]⟩
  | .manifestSorted path =>
    some ⟨.info, ["deps"], "dependencies reordered", [("path", path)]⟩
  | _ => none

end Notice

end ValidatorKeys
