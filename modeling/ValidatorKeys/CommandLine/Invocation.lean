import ValidatorKeys.CommandLine.Options
import ValidatorKeys.Config.Settings

/-!
# Invocations

What a command line asks for: one of six commands with its options, and the options that every
command has.  The latter may stand before or behind the command; behind it they win.

    Invocation.ofArgs args = the invocation that the arguments spell, or why they spell none
    RunOptions.apply o c   = the settings with the options that were given over them
-/

namespace ValidatorKeys

open CommandLine

/-- How a report is printed. -/
inductive OutputFormat where
  | terminal
  | json
  deriving Repr, DecidableEq

def OutputFormat.name : OutputFormat → String
  | .terminal => "terminal"
  | .json => "json"

/-- Options of generation, insertion and whole runs. -/
structure RunOptions where
  config : Option String := none
  nodeBinary : Option String := none
  keyFile : Option String := none
  passwordFile : Option String := none
  conflictPolicy : Option ConflictPolicy := none
  timeout : Option Nat := none
  deriving DecidableEq

/-- Options of a whole run. -/
structure ProvisionOptions where
  run : RunOptions := {}
  rounds : Option Nat := none
  skipBuild : Bool := false
  deriving DecidableEq

/-- What is to be done. -/
inductive Task where
  | provision (options : ProvisionOptions)
  | generate (options : RunOptions)
  | insert (options : RunOptions)
  | check (config : Option String)
  | sortDeps (manifest : String) (checkOnly : Bool)
  | version
  deriving DecidableEq

/-- A command line that was understood. -/
structure Invocation where
  verbosity : Nat := 0
  quiet : Bool := false
  format : OutputFormat := .terminal
  task : Task
  deriving DecidableEq

/-! ## Options over settings -/

/-- The settings with the options that were given over them. -/
def RunOptions.apply (o : RunOptions) (c : Config) : Config where
  node := { c.node with
    binary := o.nodeBinary.getD c.node.binary
    timeoutSeconds := o.timeout.or c.node.timeoutSeconds }
  keys := { c.keys with
    file := o.keyFile.getD c.keys.file
    conflictPolicy := o.conflictPolicy.getD c.keys.conflictPolicy }
  tools := c.tools

def ProvisionOptions.apply (o : ProvisionOptions) (c : Config) : Config :=
  let c := o.run.apply c
  { c with keys := { c.keys with rounds := o.rounds.getD c.keys.rounds } }

def Task.apply (t : Task) (c : Config) : Config :=
  match t with
  | .provision o => o.apply c
  | .generate o => o.apply c
  | .insert o => o.apply c
  | _ => c

def Task.name : Task → String
  | .provision _ => "provision"
  | .generate _ => "generate"
  | .insert _ => "insert"
  | .check _ => "check"
  | .sortDeps _ _ => "sort-deps"
  | .version => "version"

/-! ## Reading -/

namespace CommandLine

def sharedOptions : List OptionSpec :=
  [⟨"verbose", some 'v', .count⟩, ⟨"quiet", some 'q', .switch⟩,
    ⟨"format", none, .value (.choice ["terminal", "json"])⟩, ⟨"help", some 'h', .help⟩]

def commandNames : List String :=
  ["provision", "generate", "insert", "check", "sort-deps", "version"]

/-- The level in front of the command. -/
def outerLevel : LevelSpec where
  options := ⟨"version", some 'V', .version⟩ :: sharedOptions
  commands := "help" :: commandNames

/-- The option that names a file of settings. -/
def configOption : OptionSpec := ⟨"config", none, .value .path⟩

/-- Options of generation, insertion and whole runs. -/
def runOptions : List OptionSpec :=
  [configOption, ⟨"node-binary", none, .value .text⟩, ⟨"key-file", none, .value .path⟩,
    ⟨"password-file", none, .value .path⟩,
    ⟨"conflict-policy", none, .value (.choice ["advance", "first-match-only"])⟩,
    ⟨"timeout", none, .value .number⟩]

/-- The level behind a command. -/
def innerLevel (command : String) : LevelSpec where
  options := sharedOptions ++
    if command = "provision" then
      runOptions ++ [⟨"rounds", none, .value .number⟩, ⟨"skip-build", none, .switch⟩]
    else if command = "generate" ∨ command = "insert" then runOptions
    else if command = "check" then [configOption]
    else if command = "sort-deps" then
      [⟨"manifest", none, .value .path⟩, ⟨"check", none, .switch⟩]
    else []

def Level.number? (l : Level) (name : String) : Option Nat :=
  (l.get? name).bind fun v => Text.word? v.toList

def Level.runOptions (l : Level) : RunOptions where
  config := l.get? "config"
  nodeBinary := l.get? "node-binary"
  keyFile := l.get? "key-file"
  passwordFile := l.get? "password-file"
  conflictPolicy := (l.get? "conflict-policy").bind ConflictPolicy.ofName?
  timeout := l.number? "timeout"

def taskOf (command : String) (l : Level) : Task :=
  if command = "provision" then
    .provision ⟨l.runOptions, l.number? "rounds", l.has "skip-build"⟩
  else if command = "generate" then .generate l.runOptions
  else if command = "insert" then .insert l.runOptions
  else if command = "check" then .check (l.get? "config")
  else if command = "sort-deps" then
    .sortDeps ((l.get? "manifest").getD "Cargo.toml") (l.has "check")
  else .version

/-- How often `-v` was given: behind the command if it was given there, else in front. -/
def verbosityOf (outer inner : Level) : Nat :=
  min 255 (if inner.has "verbose" then inner.count "verbose" else outer.count "verbose")

/-- The format that was chosen: behind the command if it was chosen there, else in front. -/
def formatOf (outer inner : Level) : OutputFormat :=
  if (inner.get? "format").or (outer.get? "format") = some "json" then .json else .terminal

/-- What `help` answers: help on the tool or on a command, if what follows names one. -/
def helpOf : List String → UsageError
  | [] => .helpWanted
  | [name] => if outerLevel.commands.contains name then .helpWanted else .invalidCommand
  | _ => .invalidCommand

end CommandLine

def Invocation.ofArgs (args : List String) : Except UsageError Invocation := do
  let (outer, command?) ← readLevel outerLevel {} args
  match command? with
  | none => throw (if outer.given.isEmpty then .nothingGiven else .commandMissing)
  | some (command, rest) =>
    if command = "help" then throw (helpOf rest)
    let (inner, _) ← readLevel (innerLevel command) {} rest
    let outer ← outer.settle
    pure {
      verbosity := verbosityOf outer inner
      quiet := outer.has "quiet" || inner.has "quiet"
      format := formatOf outer inner
      task := taskOf command inner }

end ValidatorKeys
