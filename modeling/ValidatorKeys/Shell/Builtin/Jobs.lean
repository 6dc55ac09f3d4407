import ValidatorKeys.Shell.Builtin.Arguments

/-!
# Commands for processes and signals

Sending signals, providing for them, and waiting for children that run in the background.
-/

namespace ValidatorKeys.Shell

open Kernel (Bytes Work Ending)

/-! ## Signals -/

/-- The number of a signal that is given by number, or by name in any case; zero stands for the end
of the shell where that is allowed. -/
def signalOf? (least : Nat) (s : Bytes) : Option Nat :=
  if !s.isEmpty && s.all Char.isDigit then
    let n := Text.decimalValue s
    if n ≤ Kernel.Signal.greatest then some n else none
  else
    let name := s.map Char.toUpper
    if name = "EXIT".toList then (if least = 0 then some 0 else none)
    else (Kernel.Signal.ofName? (String.ofList name)).filter (1 ≤ ·)

/-- How `kill` is used. -/
def killUsage : Bytes :=
  ("Usage: kill [-s sigspec | -signum | -sigspec] [pid | job]... or\n" ++
    "kill -l [exitstatus]").toList

/-- The process that an argument of `kill` names. -/
def processOf : Bytes → Act Nat
  | '-' :: r => numberOf r
  | s => numberOf s

def sendAll (signal : Nat) (targets : List Bytes) : Act Unit := do
  setStatus 0
  for target in targets do
    let id ← processOf target
    if !(← work (Work.signal id signal)) then
      complain "No such process\n".toList
      setStatus 1

/-- Sends signals to processes. -/
def killBuiltin : Builtin where
  perform _ _ args := do
    let send (signal : Nat) (targets : List Bytes) : Act Unit :=
      if targets.isEmpty then abort killUsage else sendAll signal targets
    match args with
    | [] => abort killUsage
    | ('-' :: name) :: rest =>
      match signalOf? 1 name with
      | some signal => send signal rest
      | none =>
        let (options, rest) ← readOptions "s:" args
        match options with
        | (_, name) :: _ =>
          match signalOf? 1 name with
          | some signal => send signal rest
          | none => abort ("invalid signal number or name: ".toList ++ name)
        | [] => send Kernel.Signal.terminate rest
    | targets => send Kernel.Signal.terminate targets

/-! ## Traps -/

/-- Sets what is done at a signal: nothing of its own, nothing at all, or an action. -/
def provideFor (signal : Nat) (action : Option Bytes) : Act Unit := do
  modify fun f =>
    let others := f.traps.filter fun t => t.1 ≠ signal
    { f with traps := match action with
      | some s => (signal, s) :: others
      | none => others }
  if signal ≠ 0 then
    match action with
    | none => work (Work.provide signal false false)
    | some [] => work (Work.provide signal true false)
    | some _ => work (Work.provide signal false true)

/-- Sets what is done at several signals. -/
def provideForAll (action : Option Bytes) : List Bytes → Act Unit
  | [] => setStatus 0
  | s :: rest => do
    match signalOf? 0 s with
    | some signal => do
      provideFor signal action
      provideForAll action rest
    | none =>
      tell ("trap: ".toList ++ s ++ ": bad trap\n".toList)
      setStatus 1

/-- Sets what is done at signals. -/
def trapBuiltin : Builtin where
  special := true
  perform _ _ args := do
    let (_, args) ← if args.head? = some ['-'] then pure ([], args) else readOptions "" args
    match args with
    | [] => setStatus 0
    | [s] => provideForAll none [s]
    | s :: rest =>
      if s.all Char.isDigit && !s.isEmpty || (signalOf? 0 s).isSome then
        provideForAll none (s :: rest)
      else provideForAll (if s = ['-'] then none else some s) rest

/-! ## Waiting -/

/-- Waits for a child, or for a signal that was provided for. -/
def waitInterrupted (a : Kernel.Machine.Awaited) : Work (Except Nat (Option (Nat × Ending))) :=
  Work.await fun id m =>
    match ((m.process? id).map Kernel.Process.pending).getD [] with
    | signal :: _ => some (.error signal, m)
    | [] => (m.reap id a).map fun (r, m) => (.ok r, m)

def noteEnding (id : Nat) (ending : Ending) : Act Unit :=
  modify fun f => { f with
    jobs := f.jobs.map fun j => if j.process == id then { j with ending := some ending } else j }

def awaitJob (j : Job) : Act Nat := do
  match j.ending with
  | some ending => pure (statusOf ending)
  | none =>
    match ← work (waitInterrupted (.child j.process)) with
    | .error signal => pure (128 + signal)
    | .ok none => pure 127
    | .ok (some (id, ending)) => do
      noteEnding id ending
      tellEnding ending

/-- Waits for all jobs, of which there are at most `n`; answers the status. -/
def awaitAll : Nat → Act Nat
  | 0 => pure 0
  | n + 1 => do
    if (← get).jobs.any fun j => j.ending.isNone then
      match ← work (waitInterrupted .anyChild) with
      | .error signal => pure (128 + signal)
      | .ok none => pure 0
      | .ok (some (id, ending)) => do
        noteEnding id ending
        awaitAll n
    else pure 0

/-- Waits for each of the children that arguments name; answers the status of the last. -/
def awaitEach (status : Nat) : List Bytes → Act Nat
  | [] => pure status
  | s :: rest => do
    let id ← numberOf s
    match (← get).jobs.find? fun j => j.process == id with
    | some j => awaitEach (← awaitJob j) rest
    | none => awaitEach 127 rest

def waitBuiltin : Builtin where
  perform _ _ args := do
    let (_, args) ← readOptions "" args
    let status ←
      if args.isEmpty then awaitAll ((← get).jobs.length + 1) else awaitEach 127 args
    setStatus status

end ValidatorKeys.Shell
