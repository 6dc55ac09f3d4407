import ValidatorKeys.Config.Settings
import ValidatorKeys.Provision.Generation
import ValidatorKeys.Provision.Insertion

/-!
# Provisioning

A run checks its tools, builds the node unless that is skipped, and then goes through its rounds,
each a generation pass followed by an insertion pass over the same key file.  The first failure
ends the run.
-/

namespace ValidatorKeys

/-- Why a run ended early. -/
inductive ProvisionError where
  | pass (error : PassError)
  | emptyBuildCommand
  deriving Repr, DecidableEq

namespace ProvisionError

def message : ProvisionError → String
  | .pass e => e.message
  | .emptyBuildCommand => "build command is empty"

def cause? : ProvisionError → Option FileError
  | .pass e => e.cause?
  | .emptyBuildCommand => none

end ProvisionError

/-- What stays the same through a run. -/
structure Provisioner where
  config : Config
  environment : Environment
  skipBuild : Bool := false

namespace Provisioner

variable {σ : Type}

def node (p : Provisioner) : String := p.config.nodeProgram p.environment.directory

/-- The path of the key file. -/
def keyFile (p : Provisioner) : String := p.config.keyFilePath p.environment.directory

/-- The tools that have to be there: those configured, and the build program unless the build is
skipped. -/
def requiredTools (p : Provisioner) : List String :=
  let tools := p.config.tools.required
  match p.config.node.buildCommand with
  | program :: _ =>
    if p.skipBuild || tools.contains program then tools else tools ++ [program]
  | [] => tools

/-- Looks for tools one after the other; the first that is missing ends the run. -/
def findTools (e : Environment) : List String → Run σ RunError Unit
  | [] => pure ()
  | name :: rest => do
    if e.hasProgram (← get).files name then
      Run.note (.toolFound name)
      findTools e rest
    else throw (.missingTool name)

def checkTools (p : Provisioner) : Run σ ProvisionError Unit :=
  Run.mapError (fun e => .pass (.run e)) (findTools p.environment p.requiredTools)

def build (p : Provisioner) (r : Runner σ) : Run σ ProvisionError Unit :=
  match Command.ofArgv? p.config.node.buildCommand with
  | none => throw .emptyBuildCommand
  | some c => do
    Run.note (.buildStarted c)
    let _ ← Run.mapError (fun e => .pass (.run e)) (Run.issue r c none)
    pure ()

/-- One generation pass with the configured schemes. -/
def generate (p : Provisioner) (r : Runner σ) (password : Password) :
    Run σ ProvisionError GenerateReport := do
  Run.note .generationStarted
  Run.mapError .pass
    (generationPass r p.environment.directory p.node password p.keyFile p.config.keys.schemes)

/-- One insertion pass with the configured bindings. -/
def insert (p : Provisioner) (r : Runner σ) (password : Password) :
    Run σ ProvisionError InsertReport := do
  Run.note .insertionStarted
  Run.mapError .pass
    (insertionPass r p.environment.directory p.node p.config.keys.conflictPolicy password p.keyFile
      p.config.keys.bindings)

/-- The rounds that are left, counted up from `round`. -/
def runRounds (p : Provisioner) (r : Runner σ) (password : Password) :
    Nat → Nat → Run σ ProvisionError (List RoundReport)
  | _, 0 => pure []
  | round, left + 1 => do
    Run.note (.roundStarted round p.config.keys.rounds)
    let g ← p.generate r password
    let i ← p.insert r password
    let rest ← p.runRounds r password (round + 1) left
    pure (⟨round, some g, some i⟩ :: rest)

def provision (p : Provisioner) (r : Runner σ) (password : Password) :
    Run σ ProvisionError Report := do
  p.checkTools
  if !p.skipBuild then p.build r
  let rounds ← p.runRounds r password 1 p.config.keys.rounds
  pure ⟨!p.skipBuild, rounds⟩

end Provisioner

end ValidatorKeys
