import ValidatorKeys.File.Path
import ValidatorKeys.Key.Selection

/-!
# Settings

Everything that can be configured, in three sections, with the values that hold when nothing is.
Paths are compared by their parts, all else exactly.
-/

namespace ValidatorKeys

/-- How the node is built and run. -/
structure NodeSettings where
  binary : String := "./target/release/argochain"
  buildCommand : List String := ["cargo", "build", "--release"]
  workingDir : Option String := none
  timeoutSeconds : Option Nat := none
  deriving DecidableEq

/-- Which keys are generated and inserted. -/
structure KeySettings where
  file : String := "keys.txt"
  schemes : List Scheme := defaultSchemes
  bindings : List Binding := defaultBindings
  rounds : Nat := 2
  conflictPolicy : ConflictPolicy := .advance
  deriving DecidableEq

/-- Which tools have to be there. -/
structure ToolSettings where
  required : List String := ["cargo"]
  deriving DecidableEq

/-- All settings. -/
structure Config where
  node : NodeSettings := {}
  keys : KeySettings := {}
  tools : ToolSettings := {}
  deriving DecidableEq

namespace Config

/-! ## Layers -/

/-- The value of the upper layer unless it is the default, else that of the lower layer. -/
def layer {α : Type} [DecidableEq α] (default lower upper : α) : α :=
  if upper = default then lower else upper

/-- The path of the upper layer unless it is the same as the default, else that of the lower
layer. -/
def layerPath (default lower upper : String) : String :=
  if Path.same upper default then lower else upper

/-- The value of the upper layer if there is one, else that of the lower layer. -/
def layerOption {α : Type} (lower upper : Option α) : Option α :=
  match upper with
  | some a => some a
  | none => lower

/-- The settings of `upper` over those of `lower`. -/
def merge (lower upper : Config) : Config where
  node := {
    binary := layer ({} : NodeSettings).binary lower.node.binary upper.node.binary
    buildCommand :=
      layer ({} : NodeSettings).buildCommand lower.node.buildCommand upper.node.buildCommand
    workingDir := layerOption lower.node.workingDir upper.node.workingDir
    timeoutSeconds := layerOption lower.node.timeoutSeconds upper.node.timeoutSeconds }
  keys := {
    file := layerPath ({} : KeySettings).file lower.keys.file upper.keys.file
    schemes := layer ({} : KeySettings).schemes lower.keys.schemes upper.keys.schemes
    bindings := layer ({} : KeySettings).bindings lower.keys.bindings upper.keys.bindings
    rounds := layer ({} : KeySettings).rounds lower.keys.rounds upper.keys.rounds
    conflictPolicy :=
      layer ({} : KeySettings).conflictPolicy lower.keys.conflictPolicy upper.keys.conflictPolicy }
  tools := {
    required := layer ({} : ToolSettings).required lower.tools.required upper.tools.required }

/-! ## Validation -/

/-- Settings that no run can work with. -/
inductive Fault where
  | emptyBinary
  | emptyBuildCommand
  | noRounds
  | noSchemes
  | zeroTimeout
  deriving Repr, DecidableEq

def Fault.reason : Fault → String
  | .emptyBinary => "node.binary is empty"
  | .emptyBuildCommand => "node.build_command is empty"
  | .noRounds => "keys.rounds must be at least 1"
  | .noSchemes => "keys.schemes is empty"
  | .zeroTimeout => "node.command_timeout_secs must be positive"

def fault? (c : Config) : Option Fault :=
  if Text.allBlank c.node.binary.toList then some .emptyBinary
  else if c.node.buildCommand.isEmpty then some .emptyBuildCommand
  else if c.keys.rounds = 0 then some .noRounds
  else if c.keys.schemes.isEmpty then some .noSchemes
  else if c.node.timeoutSeconds = some 0 then some .zeroTimeout
  else none

/-- The bindings whose scheme is not among those generated. -/
def neverGenerated (c : Config) : List Binding :=
  c.keys.bindings.filter fun b => !c.keys.schemes.contains b.scheme

/-! ## Paths -/

/-- A path as seen from the directory in which commands run; absolute when that directory is set
and the path is relative. -/
def resolvePath (c : Config) (cwd path : String) : String :=
  match c.node.workingDir with
  | some dir =>
    if Path.isAbsolute path then path
    else
      let joined := Path.join dir path
      (Path.absolute? cwd joined).getD joined
  | none => path

/-- The path of the key file. -/
def keyFilePath (c : Config) (cwd : String) : String := c.resolvePath cwd c.keys.file

/-- The program of the node; a name with a single part is left to be looked up. -/
def nodeProgram (c : Config) (cwd : String) : String :=
  if 1 < (Path.parts c.node.binary).length then c.resolvePath cwd c.node.binary else c.node.binary

end Config

end ValidatorKeys
