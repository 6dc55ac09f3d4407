import ValidatorKeys.File.Tree
import ValidatorKeys.Text.Blank

/-!
# Environment of a run

The working directory and the variables, and how a program is found.  A name with more than one
part is looked up from a directory; any other name in the directories that `PATH` lists, where an
empty entry stands for the working directory and a leading `~` for `HOME`.
-/

namespace ValidatorKeys

/-- Working directory and variables of a process. -/
structure Environment where
  directory : String
  vars : List (String × String) := []

namespace Environment

def get? (e : Environment) (name : String) : Option String :=
  (e.vars.find? fun v => v.1 == name).map Prod.snd

def nonBlank? (e : Environment) (name : String) : Option String :=
  (e.get? name).filter fun value => !Text.allBlank value.toList

/-- An entry of `PATH` with `HOME` in place of a leading `~`. -/
def expandHome (e : Environment) (entry : String) : String :=
  match Path.parts entry with
  | .name "~" :: rest =>
    match e.get? "HOME" with
    | some home => if home = "" then entry else Path.joinParts home rest
    | none => entry
  | _ => entry

/-- The entries of `PATH`, none when it is unset. -/
def searchPath (e : Environment) : List String :=
  match e.get? "PATH" with
  | some value => (Text.splitAt ':' value.toList).map String.ofList
  | none => []

/-- The paths at which a program may stand, seen from the directory `dir`, in order of search. -/
def candidates (e : Environment) (dir name : String) : List String :=
  if name = "" then []
  else if 1 < (Path.parts name).length then
    if Path.isAbsolute name then [name]
    else [Path.joinParts dir ((Path.parts name).dropWhile (· == .here))]
  else e.searchPath.map fun entry => Path.join (e.expandHome entry) name

/-- The path of the program with this name, looked for from the directory `dir`. -/
def findProgram (e : Environment) (t : FileTree) (dir name : String) : Option String :=
  (e.candidates dir name).find? fun path => t.runnable? e.directory path

/-- Whether a program with this name is found from the working directory. -/
def hasProgram (e : Environment) (t : FileTree) (name : String) : Bool :=
  (e.findProgram t e.directory name).isSome

end Environment

end ValidatorKeys
