import ValidatorKeys.Config.Decoding
import ValidatorKeys.Environment
import ValidatorKeys.Provision.Notice
import ValidatorKeys.Text.Natural
import ValidatorKeys.Toml.Document

/-!
# Loading the settings

The settings come in layers: defaults, the global file, the file of the project or one that is named
explicitly, and variables.  Each layer stands over those before it.  A file that is named explicitly
has to be there; the other two may be absent.
-/

namespace ValidatorKeys.Config

/-- Why the settings could not be loaded, or cannot be used. -/
inductive Error where
  | unreadable (path : String) (cause : FileError)
  | malformed (path : String) (detail : Option String)
  | invalid (fault : Fault)
  deriving Repr, DecidableEq

namespace Error

/-- The text of a failure; that of a file that cannot be read as settings ends where the reason
would follow. -/
def message : Error → String
  | .unreadable path cause => "failed to read config file " ++ path ++ ": " ++ cause.message
  | .malformed path _ => "failed to parse config file " ++ path ++ ": "
  | .invalid fault => "invalid configuration: " ++ fault.reason

def cause? : Error → Option FileError
  | .unreadable _ cause => some cause
  | _ => none

end Error

def projectFile : String := ".keyforge.toml"

/-- The path of the global file. -/
def globalPath? (e : Environment) : Option String :=
  let base? := match (e.get? "XDG_CONFIG_HOME").filter Path.isAbsolute with
    | some dir => some dir
    | none => ((e.get? "HOME").filter (· ≠ "")).map fun dir => Path.join dir ".config"
  base?.map fun dir => Path.join (Path.join dir "keyforge") "config.toml"

def loadFile (t : FileTree) (cwd path : String) : Except Error Config :=
  match t.readText cwd path with
  | .error e => .error (.unreadable path e)
  | .ok text =>
    match Toml.parse? text.toList with
    | none => .error (.malformed path none)
    | some table =>
      match ofTable table with
      | .ok c => .ok c
      | .error p => .error (.malformed path p.detail?)

/-- The settings with those of the file at a path over them, if there is one. -/
def mergeOptional (t : FileTree) (cwd : String) (c : Config) (path : String) : Except Error Config :=
  if t.exists? cwd path then (loadFile t cwd path).map c.merge else .ok c

/-- The settings with those of the variables over them, and what is to be told about these. -/
def applyVariables (e : Environment) (c : Config) : Config × List Notice :=
  let c := match e.nonBlank? "KEYFORGE_NODE_BINARY" with
    | some v => { c with node := { c.node with binary := v } }
    | none => c
  let c := match e.nonBlank? "KEYFORGE_KEY_FILE" with
    | some v => { c with keys := { c.keys with file := v } }
    | none => c
  match e.nonBlank? "KEYFORGE_ROUNDS" with
  | none => (c, [])
  | some v =>
    match Text.word? (Text.trim v.toList) with
    | some n => ({ c with keys := { c.keys with rounds := n } }, [])
    | none => (c, [.invalidRounds v])

def loadFiles (t : FileTree) (e : Environment) (explicit projectDir : Option String) :
    Except Error Config := do
  let c ← match globalPath? e with
    | some path => mergeOptional t e.directory {} path
    | none => pure {}
  match explicit, projectDir with
  | some path, _ => (loadFile t e.directory path).map c.merge
  | none, some dir => mergeOptional t e.directory c (Path.join dir projectFile)
  | none, none => pure c

/-- The settings of all layers below the command line. -/
def load (t : FileTree) (e : Environment) (explicit projectDir : Option String) :
    Except Error (Config × List Notice) :=
  (loadFiles t e explicit projectDir).map (applyVariables e)

/-- Accepts the settings, with a notice for each binding that will never get a key. -/
def validate (c : Config) : Except Error (List Notice) :=
  match c.fault? with
  | some f => .error (.invalid f)
  | none => .ok (c.neverGenerated.map .schemeNeverGenerated)

end ValidatorKeys.Config
