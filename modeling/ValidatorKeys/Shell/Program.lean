import ValidatorKeys.Shell.Running

/-!
# Programs that a shell starts

A name without a slash is looked for in the directories of the path; the first file that may be run
is taken.  A file without an interpreter is run by a shell of its own.
-/

namespace ValidatorKeys.Shell

open Kernel (Bytes Work Image)

/-! ## Search -/

def programPaths (path name : Bytes) : List Bytes :=
  (Text.splitAt ':' path).map fun dir => if dir.isEmpty then name else dir ++ '/' :: name

/-- The paths from the first one on at which a file stands that may be run; none when there is no
such file, with the cause. -/
def locateAmong (t : FileTree) (cwd : String) (e : FileError) :
    List Bytes → Except FileError (List Bytes)
  | [] => .error e
  | path :: rest =>
    match t.lookup cwd (Text.stringOfOctets path) with
    | .ok (_, n) =>
      if n.isExecutable then .ok (path :: rest) else locateAmong t cwd .accessDenied rest
    | .error .notFound => locateAmong t cwd e rest
    | .error .notDirectory => locateAmong t cwd e rest
    | .error other => locateAmong t cwd other rest

def locate (path name : Bytes) (t : FileTree) (cwd : String) : Except FileError (List Bytes) :=
  if name.contains '/' then .ok [name]
  else locateAmong t cwd .notFound (programPaths path name)

/-- The directories that a shell searches where no variable lists them. -/
def standardPath : Bytes := "/usr/local/sbin:/usr/local/bin:/usr/sbin:/usr/bin:/sbin:/bin".toList

/-- The directories that a shell searches. -/
def pathOf (f : Frame) : Bytes := (f.named? "PATH").getD []

/-! ## Start -/

/-- In which of the thirty-nine rows of the table of variables a name stands. -/
def tableRow (name : Bytes) : Nat :=
  ((name.map Char.toNat).foldr (· + ·) 0 + 16 * (name.head?.map Char.toNat).getD 0) % 39

/-- The variables that are handed on to programs, in the order of their table. -/
def Frame.handedOn (f : Frame) : List Bytes :=
  let exported := f.vars.filter fun v => v.exported && v.value.isSome
  (exported.mergeSort fun a b => tableRow a.name ≤ tableRow b.name).map fun v =>
    v.name ++ '=' :: v.value.getD []

/-- Whether a name that cannot be started counts as not found. -/
def isMissing : FileError → Bool
  | .notFound => true
  | .notDirectory => true
  | .nameTooLong => true
  | .tooManyLinks => true
  | _ => false

def startComplaint (name : Bytes) (e : FileError) : Bytes :=
  let cause := match e with
    | .notFound => "not found"
    | .notDirectory => "not found"
    | e => e.text
  name ++ ": ".toList ++ cause.toList

/-- Whether a character does not occur in the first line of a text. -/
def isForeign (c : Char) : Bool :=
  c.toNat ≤ 8 || (16 ≤ c.toNat && c.toNat ≤ 31 && c.toNat ≠ 27) || c.toNat = 127

/-- How much of a file is looked at to tell whether it is a text. -/
def sampleSize : Nat := 128

/-- Whether a file looks like a script: nothing foreign stands in its first line. -/
def isScript (content : Bytes) : Bool :=
  !(((content.take sampleSize).takeWhile (· ≠ '\n')).any isForeign)

/-- The image of the program at a path; a script that names no interpreter is run by a shell. -/
def imageAt (t : FileTree) (cwd : String) (path name : Bytes) (args vars : List Bytes) :
    Except FileError Image :=
  match Image.atPath t cwd (Text.stringOfOctets path) name args vars with
  | .error .notExecutable =>
    match t.lookup cwd (Text.stringOfOctets path) with
    | .ok (_, .file content _) =>
      if isScript (Text.octets content) then
        Image.atPath t cwd "/bin/sh" "/bin/sh".toList (path :: args) vars
      else .error .notExecutable
    | _ => .error .notExecutable
  | r => r

/-- Becomes the program at the first of the paths that can be started; answers why none can. -/
def startAmong (name : Bytes) (args vars : List Bytes) (e : FileError) :
    List Bytes → Work FileError
  | [] => pure e
  | path :: rest => do
    match ← Work.start (fun t cwd => imageAt t cwd path name args vars) vars with
    | .notFound => startAmong name args vars e rest
    | .notDirectory => startAmong name args vars e rest
    | other => startAmong name args vars other rest

/-- Becomes a program; where that is not possible the shell ends with a complaint. -/
def becomeProgram (path name : Bytes) (args : List Bytes) : Act Unit := do
  let f ← get
  let paths := if name.contains '/' then [name] else programPaths path name
  let e ← work (startAmong name args f.handedOn .notFound paths)
  complain (startComplaint name e)
  throw (.exit (if isMissing e then 127 else 126))

/-- Runs a program beside the shell, or in place of it when nothing follows. -/
def runProgram (run : Running) (c : Standing) (path name : Bytes) (args : List Bytes) :
    Act Unit := do
  let f ← get
  if c.final && !(f.traps.any fun t => !t.2.isEmpty) then becomeProgram path name args
  else inSubshell run (becomeProgram path name args)

end ValidatorKeys.Shell
