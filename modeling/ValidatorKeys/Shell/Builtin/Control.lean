import ValidatorKeys.File.Question
import ValidatorKeys.Shell.Builtin.Arguments
import ValidatorKeys.Shell.Program

/-!
# Commands that direct what is run

Commands that leave loops, functions and the shell, and that run other texts: those of arguments,
of files, and of programs in place of the shell.
-/

namespace ValidatorKeys.Shell

open Kernel (Bytes Work)

/-! ## Leaving -/

/-- Does nothing, with a status. -/
def doing (special : Bool) (status : Nat) : Builtin where
  special := special
  perform _ _ _ := setStatus status

/-- The status that is meant where none is given: while a trap is run, that from before it. -/
def currentStatus : Act Nat := do
  let f ← get
  pure (f.trapped.getD f.status)

def exitBuiltin : Builtin where
  special := true
  perform _ _ args := do
    let status ← countOf (← currentStatus) args
    throw (.exit status)

/-- Leaves a function or a file. -/
def returnBuiltin : Builtin where
  special := true
  perform _ _ args := do
    setStatus (← countOf (← get).status args)
    throw .back

/-- Leaves loops, or goes on with the next turn of one. -/
def leaving (stop : Nat → Stop) : Builtin where
  special := true
  perform _ _ args := do
    let levels ← countOf 1 args
    if levels = 0 then abort ("Illegal number: ".toList ++ args.headD [])
    setStatus 0
    let f ← get
    if f.loops ≠ 0 then throw (stop (min levels f.loops))

/-! ## Other texts -/

/-- Runs the text of its arguments. -/
def evalBuiltin : Builtin where
  special := true
  perform run c args := do
    setStatus 0
    run c.inner (.script (List.intercalate [' '] args) 1 false)

/-- The path of a file that is to be run by this shell. -/
def sourcePath (name : Bytes) : Act Bytes := do
  if name.contains '/' then pure name
  else
    let paths := programPaths (pathOf (← get)) name
    match ← work (Work.onFiles fun t cwd =>
        paths.find? fun path => t.ask cwd 'f' (Text.stringOfOctets path)) with
    | some path => pure path
    | none => abort (name ++ ": not found".toList)

/-- Runs a file by this shell. -/
def sourceBuiltin : Builtin where
  special := true
  perform run _ args := do
    match args with
    | [] => setStatus 0
    | name :: _ =>
      let path ← sourcePath name
      match ← work (Work.contentOf (Text.stringOfOctets path)) with
      | .error e =>
        if e = .isDirectory then setStatus 0
        else
          abort ("cannot open ".toList ++ path ++ ": ".toList ++
            (if isMissing e then "No such file" else e.text).toList)
      | .ok text =>
        let before ← get
        setStatus 0
        modify fun f => { f with command := some path }
        ensuring
          (try run {} (.script text 1 true)
          catch
            | .back => pure ()
            | stop => throw stop)
          (modify fun f => { f with line := before.line })

/-- Becomes a program; without one nothing happens. -/
def execBuiltin : Builtin where
  special := true
  perform _ _ args := do
    match args with
    | [] => setStatus 0
    | name :: rest =>
      let (name, rest) := if name = ['-', '-'] then (rest.headD [], rest.tail) else (name, rest)
      becomeProgram (pathOf (← get)) name rest

end ValidatorKeys.Shell
