import ValidatorKeys.CommandLine.Outcome

/-!
# The command line

Takes a picture of the files that an invocation may read, performs the invocation on it, and writes
back what changed.  Commands are executed within that picture: scripts and a few programs that are
known by name.
-/

namespace ValidatorKeys

/-- Permission bits of a file, as far as its content tells: scripts and binaries may be run. -/
def presumedMode (content : ByteArray) : Nat :=
  let start := content.data.toList.take 2
  if start = [0x23, 0x21] ∨ start = [0x7F, 0x45] then 0o755 else 0o644

/-- Variables that settings, searches and the log depend on. -/
def knownVariables : List String :=
  ["HOME", "PATH", "XDG_CONFIG_HOME", "KEYFORGE_NODE_BINARY", "KEYFORGE_KEY_FILE", "KEYFORGE_ROUNDS",
    "KEYFORGE_PASSWORD", "RUST_LOG", "NO_COLOR", "CLICOLOR_FORCE"]

def namedConfig? (i : Invocation) : Option String :=
  match i.task with
  | .provision o => o.run.config
  | .generate o => o.config
  | .insert o => o.config
  | .check config => config
  | _ => none

/-- The paths outside the working directory that an invocation may read. -/
def outerPaths (e : Environment) (i : Invocation) : List String :=
  let given := match i.task with
    | .provision o => o.run.passwordFile.toList
    | .generate o => o.passwordFile.toList
    | .insert o => o.passwordFile.toList
    | .sortDeps manifest _ => [manifest]
    | _ => []
  given ++ (namedConfig? i).toList ++ (Config.globalPath? e).toList

/-- The paths that settings add: those of the key file, the node, and the tools. -/
def settingPaths (e : Environment) (c : Config) : List String :=
  let tools := c.tools.required ++ c.node.buildCommand.take 1 ++ [c.node.binary]
  [c.keyFilePath e.directory, c.nodeProgram e.directory] ++
    tools.flatMap fun name => e.candidates e.directory name

/-- Adds what stands at a path to a picture. -/
def addPath (cwd : String) (t : FileTree) (path : String) : IO FileTree := do
  let full := Path.join cwd path
  if t.exists? cwd full then return t
  try
    match (← (← IO.FS.realPath full).metadata).type with
    | .dir => return t.put cwd full (.directory 0o755)
    | .file =>
      let content ← IO.FS.readBinFile full
      return t.put cwd full (.file content (presumedMode content))
    | _ => return t
  catch _ => return t

/-- Adds everything below a directory to a picture, to a depth of `n`. -/
def addDirectory (cwd : String) : Nat → FileTree → String → IO FileTree
  | 0, t, _ => return t
  | n + 1, t, dir => do
    let mut t := t.put cwd dir (.directory 0o755)
    for entry in ← (← IO.FS.realPath dir).readDir do
      let path := Path.join dir entry.fileName
      if ← entry.path.isDir then
        t ← addDirectory cwd n t path
      else
        t ← addPath cwd t path
    return t

/-- Writes back the files that differ between two pictures. -/
def writeBack (before after : FileTree) : IO Unit := do
  for (l, node) in after.entries.reverse do
    let path := "/" ++ String.intercalate "/" l.reverse
    match node, before.get? l with
    | .directory _, none => IO.FS.createDirAll path
    | .file content mode, none =>
      IO.FS.writeBinFile path content
      if mode &&& 0o077 = 0 then
        IO.setAccessRights path { user := { read := true, write := true } }
    | .file content _, some (.file old _) =>
      if content != old then IO.FS.writeBinFile path content
    | _, _ => pure ()

end ValidatorKeys

open ValidatorKeys in
/-- Performs the invocation that the arguments spell. -/
def main (args : List String) : IO UInt32 := do
  match Invocation.ofArgs args with
  | .error e =>
    IO.eprintln "usage: keyforge [OPTIONS] <COMMAND>"
    return e.exitCode.toUInt32
  | .ok i =>
    let cwd := (← IO.currentDir).toString
    let vars ← knownVariables.filterMapM fun name => do
      return (← IO.getEnv name).map fun value => (name, value)
    let e : Environment := ⟨cwd, vars⟩
    let mut files ← addDirectory cwd 8 (Host.systemTree cwd) cwd
    for path in outerPaths e i do
      files ← addPath cwd files path
    if let .ok (c, _) := Config.load files e (namedConfig? i) (some cwd) then
      for path in settingPaths e (i.task.apply c) do
        files ← addPath cwd files path
    let tool := Tool.executing e "x86_64-unknown-linux-gnu"
    let (o, after) := tool.perform i { files := files, state := () }
    writeBack files after.files
    IO.print o.output
    for line in tool.errorLines i o after.notices do
      match line with
      | .logged text => IO.eprintln text
      | .plain text => IO.eprintln text
    return o.exitCode.toUInt32
