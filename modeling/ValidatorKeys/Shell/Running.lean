import ValidatorKeys.Shell.Expansion
import ValidatorKeys.Shell.Grammar

/-!
# Shells and their children

What is run is a statement or a script; it is run by the `Running` that is handed in, which stands
for scripts of any depth.  A subshell is a child with a copy of the frame; when a shell ends, its last
trap is run first.
-/

namespace ValidatorKeys.Shell

open Kernel (Bytes Work Ending Descriptor)

/-! ## What is run -/

/-- A statement, or the text of a script from a line on; that of a file can be shown as it is read. -/
inductive Task where
  | statement (s : Statement)
  | script (text : Bytes) (line : Nat) (isFile : Bool)

/-- What hangs on a task: `tested` tells that its failure is looked at, so that it ends no shell that
stops on failure, and `final` that the shell has nothing to do behind it. -/
structure Standing where
  tested : Bool := false
  final : Bool := false
  deriving Repr, DecidableEq

/-- The standing of a task that others follow. -/
def Standing.inner (c : Standing) : Standing := { c with final := false }

/-- The standing of a task whose failure is looked at. -/
def Standing.looked : Standing := { tested := true }

/-- What runs a task. -/
abbrev Running := Standing → Task → Act Unit

/-- A step with another one behind it, whether it stops or not. -/
def ensuring {α : Type} (act : Act α) (after : Act Unit) : Act α := do
  try
    let a ← act
    after
    pure a
  catch stop =>
    after
    throw stop

/-! ## Endings -/

def statusOf : Ending → Nat
  | .exited status => status
  | .killed signal => 128 + signal

/-- The status that is left behind when a script stops. -/
def stopStatus (status : Nat) : Stop → Nat
  | .exit s => s
  | .failed s => s
  | _ => status

/-- Runs what is to be done at a signal, and keeps the status, which is also that of leaving the shell
meanwhile. -/
def runTrap (run : Running) (action : Bytes) : Act Unit := do
  let f ← get
  modify fun g => { g with trapped := some f.status }
  ensuring (run {} (.script action 1 false)) (modify fun g => { g with trapped := f.trapped })
  modify fun g => { g with status := f.status, line := f.line }

/-- Runs what is to be done at the signals that have arrived. -/
def runTraps (run : Running) : Act Unit := do
  if (← get).traps.any fun t => t.1 ≠ 0 then
    let arrived ← work Work.takeSignals
    for n in arrived.mergeSort (· ≤ ·) do
      match (← get).traps.find? fun t => t.1 == n with
      | some (_, action) => runTrap run action
      | none => pure ()

def lastTrap (f : Frame) : Bytes := ((f.traps.find? fun t => t.1 == 0).map Prod.snd).getD []

/-- Ends the shell with a status behind its last trap. -/
def endShell (run : Running) (status : Nat) : Act Unit := do
  let action := lastTrap (← get)
  modify fun f => { f with
    status := status, trapped := some status, calls := 0, command := none
    traps := f.traps.filter fun t => t.1 ≠ 0 }
  let status ←
    if action.isEmpty then pure status
    else
      try
        run {} (.script action 1 false)
        pure status
      catch
        | .exit s => pure s
        | _ => pure status
  work (Work.finish (.exited (status % 256)))

/-- Runs what a shell is there for and ends it. -/
def live (run : Running) (act : Act Unit) : Act Unit := do
  let status ←
    try
      act
      pure (← get).status
    catch stop => pure (stopStatus (← get).status stop)
  endShell run status

/-! ## Children -/

/-- The frame of a subshell: actions at signals are not inherited, and there are no jobs. -/
def Frame.forChild (f : Frame) : Frame :=
  { f with
    isSubshell := true, jobs := [], traps := f.traps.filter fun t => t.2.isEmpty }

/-- Takes away the provisions that a subshell does not inherit. -/
def dropProvisions (f : Frame) : Work Unit :=
  (f.traps.filter fun t => t.1 ≠ 0 && !t.2.isEmpty).forM fun t => Work.provide t.1 false false

/-- Makes a subshell; answers its number. -/
def subshell (run : Running) (act : Act Unit) : Act Nat := do
  let f ← get
  work (Work.fork do
    dropProvisions f
    let _ ← (live run act).run.run f.forChild)

/-- Tells of the end of a child when a signal ended it; answers its status. -/
def tellEnding (ending : Ending) : Act Nat := do
  match ending with
  | .killed signal =>
    if signal ≠ 2 ∧ signal ≠ Kernel.Signal.brokenPipe then
      tell ((Kernel.Signal.description signal).toList ++ ['\n'])
  | .exited _ => pure ()
  pure (statusOf ending)

def awaitChild (id : Nat) : Act Nat := do
  match ← work (Work.wait (.child id)) with
  | some (_, ending) => tellEnding ending
  | none => pure 127

/-- Runs a step in a subshell and waits for its end. -/
def inSubshell (run : Running) (act : Act Unit) : Act Unit := do
  let id ← subshell run act
  setStatus (← awaitChild id)

/-! ## Captured output -/

/-- What a subshell prints, without the line feeds at its end. -/
def capture (run : Running) (body : Statement) : Act Bytes := do
  match body with
  | .nothing => pure []
  | body => do
    let (r, w) ← work Work.pipe
    let id ← subshell run do
      work (Work.close r)
      work (Work.become w 1)
      run { final := true } (.statement body)
    work (Work.close w)
    let text ← work (Work.readAll r)
    work (Work.close r)
    let status ← awaitChild id
    modify fun f => { f with outputStatus := status }
    match text with
    | .ok text =>
      pure ((text.filter (· ≠ Char.ofNat 0)).reverse.dropWhile (· = '\n')).reverse
    | .error _ => pure []

end ValidatorKeys.Shell
