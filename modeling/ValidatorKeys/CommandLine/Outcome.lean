import ValidatorKeys.CommandLine.LogFilter
import ValidatorKeys.Config.Loading
import ValidatorKeys.Config.PasswordSource
import ValidatorKeys.Host.Runner
import ValidatorKeys.Manifest.Sorting
import ValidatorKeys.Provision.Provisioner
import ValidatorKeys.Report.Json
import ValidatorKeys.Report.Terminal

/-!
# What an invocation does and leaves

Each task loads its settings, applies its options, and checks everything that can be checked before
the first command is issued or the first file is touched.  The outcome is what is printed, the exit
code and, if the task failed, why.

    perform tool i = the outcome of i, by a run over the files
-/

namespace ValidatorKeys

open Text (paint)

/-! ## Failures -/

/-- Why a task failed. -/
inductive Failure where
  | loading (error : Config.Error)
  | settings (error : Config.Error)
  | password (error : PasswordError)
  | tools (error : ProvisionError)
  | provision (error : ProvisionError)
  | generation (error : ProvisionError)
  | insertion (error : ProvisionError)
  | noKeyFile (path : String)
  | toolsMissing (count : Nat)
  | manifest (error : Manifest.Error)
  deriving Repr, DecidableEq

/-- The whole text of a failure: what was tried, what failed, and the cause beneath it. -/
def Failure.message : Failure → String
  | .loading e => "failed to load configuration: " ++ withCause e.message e.cause?
  | .settings e => withCause e.message e.cause?
  | .password e => "failed to obtain keystore password: " ++ withCause e.message e.cause?
  | .tools e => withCause e.message e.cause?
  | .provision e => "provisioning failed: " ++ withCause e.message e.cause?
  | .generation e => "key generation failed: " ++ withCause e.message e.cause?
  | .insertion e => "key insertion failed: " ++ withCause e.message e.cause?
  | .noKeyFile path =>
    "key file " ++ path ++ " not found; run \x60" ++ toolName ++ " generate\x60 first"
  | .toolsMissing count => count.repr ++ " required tool(s) missing"
  | .manifest e => withCause e.message e.cause?

/-- What an invocation leaves beside the files. -/
structure Outcome where
  output : String := ""
  succeeded : Bool := true
  failure : Option Failure := none
  deriving DecidableEq

def Outcome.exitCode (o : Outcome) : Nat := if o.succeeded then 0 else 1

/-- The outcome of a task that failed before it printed anything. -/
def Outcome.ofFailure (f : Failure) : Outcome := { succeeded := false, failure := some f }

/-! ## Tasks -/

/-- What tasks are performed with: the environment, the machine that the tool was built for, and
the runner of commands under given settings. -/
structure Tool (σ : Type) where
  environment : Environment
  target : String
  runner : Config → Runner σ

namespace Tool

variable {σ : Type} (t : Tool σ)

/-- Whether colours are on: they can be forced, then switched off, and are off where nobody
looks. -/
def colours : Bool :=
  match t.environment.get? "CLICOLOR_FORCE" with
  | some value => value ≠ "0"
  | none => false

def load (explicit : Option String) : Run σ Failure Config := do
  let files := (← get).files
  match Config.load files t.environment explicit (some t.environment.directory) with
  | .ok (c, notices) =>
    notices.forM fun n => Run.note n
    pure c
  | .error e => throw (.loading e)

def accept (c : Config) : Run σ Failure Unit :=
  match c.validate with
  | .ok notices => notices.forM fun n => Run.note n
  | .error e => throw (.settings e)

def password (file : Option String) : Run σ Failure Password := do
  match Password.resolve (← get).files t.environment file with
  | .ok p => pure p
  | .error e => throw (.password e)

def provision (o : ProvisionOptions) : Run σ Failure Report := do
  let c := o.apply (← t.load o.run.config)
  accept c
  let p : Provisioner := ⟨c, t.environment, o.skipBuild⟩
  Run.mapError .tools p.checkTools
  let password ← t.password o.run.passwordFile
  Run.mapError .provision (p.provision (t.runner c) password)

def generate (o : RunOptions) : Run σ Failure Report := do
  let c := o.apply (← t.load o.config)
  accept c
  let p : Provisioner := ⟨c, t.environment, false⟩
  let password ← t.password o.passwordFile
  let g ← Run.mapError .generation (p.generate (t.runner c) password)
  pure ⟨false, [⟨1, some g, none⟩]⟩

/-- One insertion pass; the key file has to be there. -/
def insert (o : RunOptions) : Run σ Failure Report := do
  let c := o.apply (← t.load o.config)
  let p : Provisioner := ⟨c, t.environment, false⟩
  if !(← get).files.exists? t.environment.directory p.keyFile then throw (.noKeyFile p.keyFile)
  accept c
  let password ← t.password o.passwordFile
  let i ← Run.mapError .insertion (p.insert (t.runner c) password)
  pure ⟨false, [⟨1, none, some i⟩]⟩

def checkLine (style : Text.Style) (mark name remark : String) : String :=
  "  " ++ paint t.colours style mark ++ " " ++ name ++
    (if remark = "" then "" else " " ++ remark) ++ "\n"

def toolLine (found : Bool) (name : String) : String :=
  if found then t.checkLine (.strongIn .green) "✔" name ""
  else
    t.checkLine (.strongIn .red) "✖" name
      (paint t.colours (.coloured .red) "not found in PATH")

def nodeLine (found : Bool) (name : String) : String :=
  if found then t.checkLine (.strongIn .green) "✔" name ""
  else t.checkLine (.strongIn .yellow) "⚠" name (paint t.colours .faint "not built yet")

/-- Tells which tools are there, and fails if one is missing. -/
def check (config : Option String) : Run σ Failure Outcome := do
  let c ← t.load config
  accept c
  let p : Provisioner := ⟨c, t.environment, false⟩
  let files := (← get).files
  let found (name : String) : Bool := t.environment.hasProgram files name
  let missing := (p.requiredTools.filter fun name => !found name).length
  let listing :=
    String.join (p.requiredTools.map fun name => t.toolLine (found name) name) ++
      t.nodeLine (found p.node) p.node
  pure {
    output := listing
    succeeded := missing = 0
    failure := if missing = 0 then none else some (.toolsMissing missing) }

/-- Sorts the dependencies of a manifest, or tells whether they are sorted. -/
def sortDeps (path : String) (checkOnly : Bool) : Run σ Failure Outcome := do
  let s ← get
  match Manifest.sortFile s.files t.environment.directory path checkOnly with
  | .error e => throw (.manifest e)
  | .ok (o, files) =>
    set { s with files := files }
    if !o.changed then
      pure { output := t.checkLine (.strongIn .green) "✔" (path ++ " dependencies already sorted") "" }
    else if checkOnly then
      pure {
        output := t.checkLine (.strongIn .red) "✖" (path ++ " dependencies are not sorted") ""
        succeeded := false }
    else
      Run.note (.manifestSorted path)
      pure {
        output := t.checkLine (.strongIn .green) "✔"
          ("sorted " ++ o.entries.repr ++ " dependencies in " ++ path) "" }

def toolVersion : String := "0.1.0"

/-- What `version` prints. -/
def versionText : String :=
  paint t.colours .strong toolName ++ " " ++ paint t.colours (.strongIn .green) toolVersion ++ "\n" ++
    paint t.colours .faint "target:" ++ "     " ++ t.target ++ "\n"

/-! ## Invocations -/

def reportText (format : OutputFormat) (quiet : Bool) (r : Report) : String :=
  match format with
  | .json => r.jsonText ++ "\n"
  | .terminal => if quiet then "" else r.terminalText t.colours

/-- A task that ends in a report. -/
def reporting (i : Invocation) (act : Run σ Failure Report) : Run σ Failure Outcome := do
  pure { output := t.reportText i.format i.quiet (← act) }

def task (i : Invocation) : Run σ Failure Outcome :=
  match i.task with
  | .provision o => t.reporting i (t.provision o)
  | .generate o => t.reporting i (t.generate o)
  | .insert o => t.reporting i (t.insert o)
  | .check config => t.check config
  | .sortDeps path checkOnly => t.sortDeps path checkOnly
  | .version => pure { output := t.versionText }

def perform (i : Invocation) (s : Session σ) : Outcome × Session σ :=
  match (t.task i).run s with
  | (.ok o, s) => (o, s)
  | (.error f, s) => (.ofFailure f, s)

/-! ## The error stream -/

/-- A line of the error stream: an entry of the log, which gets a time stamp, or plain text. -/
inductive ErrorLine where
  | logged (text : String)
  | plain (text : String)
  deriving Repr, DecidableEq

def linesOfText (s : String) : List String := (Text.splitAt '\n' s.toList).map String.ofList

/-- The lines of a log entry; only its first one counts as logged. -/
def loggedLines (s : String) : List ErrorLine :=
  match linesOfText s with
  | [] => []
  | first :: rest => .logged first :: rest.map .plain

/-- The lines of a notice: its log entry, its progress unless that is suppressed, and its
warning. -/
def noticeLines (quiet : Bool) (filter : List CommandLine.LogDirective) (n : Notice) :
    List ErrorLine :=
  (match n.logged? with
    | some e => if CommandLine.shows filter e then loggedLines e.text else []
    | none => []) ++
  (match n.progress? t.colours with
    | some text => if quiet then [] else (linesOfText text).map .plain
    | none => []) ++
  match n.warning? with
    | some text => (linesOfText text).map .plain
    | none => []

/-- The lines that an invocation writes to the error stream. -/
def errorLines (i : Invocation) (o : Outcome) (notices : List Notice) : List ErrorLine :=
  let filter := CommandLine.logFilter (t.environment.get? "RUST_LOG") i.quiet i.verbosity
  notices.flatMap (t.noticeLines i.quiet filter) ++
    match o.failure with
    | some f => (linesOfText ("Error: " ++ f.message)).map .plain
    | none => []

end Tool

/-- The host on which commands run under given settings. -/
def Host.ofConfig (e : Environment) (c : Config) : Host where
  environment := e
  workingDir := c.node.workingDir
  timeout := c.node.timeoutSeconds.map (1000 * ·)

/-- The tool whose commands are executed. -/
def Tool.executing (e : Environment) (target : String) : Tool Unit :=
  ⟨e, target, fun c => (Host.ofConfig e c).runner⟩

end ValidatorKeys
