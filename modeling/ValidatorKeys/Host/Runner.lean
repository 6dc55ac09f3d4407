import ValidatorKeys.Environment
import ValidatorKeys.Host.System
import ValidatorKeys.Kernel.Pool
import ValidatorKeys.Provision.Session
import ValidatorKeys.Text.Blank
import ValidatorKeys.Text.Redaction

/-!
# Commands as processes

The host runs commands on the files of a tree.  A command is started in a directory, with a text or
nothing to read, and its output and its errors are collected until it has ended and nobody holds
them any more.

    answer = what it wrote, trimmed    when its status is zero
    answer = failed                    when it ended any other way
    answer = spawn                     when it cannot be started
    answer = timedOut                  when its time is over first
-/

namespace ValidatorKeys

open Kernel (Bytes Image Machine Pool)

/-- Where and how long commands run.  Times are in milliseconds. -/
structure Host where
  environment : Environment
  workingDir : Option String := none
  timeout : Option Nat := none

namespace Host

/-! ## How a process ends -/

/-- The text of the end of a process. -/
def endingText : Kernel.Ending → String
  | .exited status => "exit status: " ++ status.repr
  | .killed signal =>
    let name := if signal < 32 then Kernel.Signal.name? signal else none
    "signal: " ++ signal.repr ++ ((name.map fun s => " (SIG" ++ s ++ ")").getD "")

/-- What a process leaves when its time was enough. -/
structure Result where
  ending : Kernel.Ending
  output : Bytes
  errors : Bytes

def decoded (s : Bytes) : String :=
  String.ofList (Text.trim (Text.stringOfOctets s).toList)

/-- What a result says about its command. -/
def Result.answer (c : Command) (r : Result) : Except RunError String :=
  if r.ending = .exited 0 then .ok (decoded r.output)
  else .error (.failed c.text (endingText r.ending) (Text.redactString (decoded r.errors)))

/-! ## Starting -/

/-- Whether a text holds the character that ends texts of the operating system. -/
def holdsNul (s : String) : Bool := s.toList.contains (Char.ofNat 0)

/-- The directory in which commands run. -/
def directory (h : Host) (t : FileTree) : Except FileError String :=
  match h.workingDir with
  | none => .ok h.environment.directory
  | some dir =>
    match t.lookup h.environment.directory dir with
    | .error e => .error e
    | .ok (l, .directory _) => .ok ("/" ++ String.intercalate "/" l.reverse)
    | .ok (_, _) => .error .notDirectory

def handed (h : Host) : List Bytes :=
  h.environment.vars.map fun v => Text.octetsOf v.1 ++ '=' :: Text.octetsOf v.2

/-- The image of a command and the directory in which it runs. -/
def start (h : Host) (c : Command) (t : FileTree) : Except FileError (Image × String) := do
  if holdsNul c.program || c.args.any holdsNul || (h.workingDir.map holdsNul).getD false then
    throw .nulInCommand
  let cwd ← h.directory t
  let image ← Image.ofCommand t cwd (h.environment.get? "PATH") c.program
    (c.args.map Text.octetsOf) h.handed
  pure (image, cwd)

/-! ## Running -/

def firstProcess : Nat := 1000

/-- The machine on which a command runs: its input is a pipe or the device that holds nothing, and
what it writes goes to pipes that are watched. -/
def machine (h : Host) (input : Option String) (t : FileTree) (cwd : String) : Machine where
  files := t
  pipes :=
    #[({} : Kernel.Pipe).push (Text.octetsOf (input.getD "")), { watched := true },
      { watched := true }]
  channels :=
    #[if input.isSome then .reading 0 else .device .nullDevice, .writing 1, .writing 2]
  processes := [{
    id := firstProcess, parent := firstProcess - 1, directory := cwd, environment := h.handed
    descriptors := (List.range 3).map fun n => ⟨n, n, false⟩ }]
  next := firstProcess + 1

/-- How many steps a command may make where nothing else ends it. -/
def stepLimit : Nat := Nat.pow 10 9

/-- Runs an image to its end, or until its time is over; without any time it does nothing. -/
def execute (h : Host) (i : Image) (m : Machine) : Option Result × FileTree :=
  if h.timeout = some 0 then (none, m.files)
  else
    let limit := h.timeout.map fun n => n * 1000
    let (complete, m) := Pool.run load firstProcess limit stepLimit none
      ⟨m, [⟨firstProcess, load i, false⟩]⟩
    let written (pipe : Nat) : Bytes := ((m.pipes[pipe]?).map Kernel.Pipe.content).getD []
    let ending := ((m.process? firstProcess).bind fun p => p.ending).getD (.exited 0)
    (if complete then some ⟨ending, written 1, written 2⟩ else none, m.files)

def runner (h : Host) : Runner Unit where
  run c input t _ :=
    match h.start c t with
    | .error e => ⟨.error (.spawn c.text e), t, (), [.commandFailed c]⟩
    | .ok (image, cwd) =>
      match h.execute image (h.machine input t cwd) with
      | (none, t) =>
        ⟨.error (.timedOut c.text (h.timeout.getD 0 / 1000)), t, (),
          [.commandSpawned c, .commandFailed c]⟩
      | (some r, t) =>
        match r.answer c with
        | .ok text => ⟨.ok text, t, (), [.commandSpawned c, .commandRan c]⟩
        | .error e => ⟨.error e, t, (), [.commandSpawned c, .commandFailed c]⟩

end Host

end ValidatorKeys
