import ValidatorKeys.File.Mode
import ValidatorKeys.Shell.Builtin.Arguments

/-!
# Commands for directories and permissions

Going to another directory, telling the present one, and the permission bits that new files are
refused.
-/

namespace ValidatorKeys.Shell

open Kernel (Bytes Work)

/-! ## Directories -/

/-- Whether a path is tried as it stands, and not behind the directories of a search path. -/
def isPlainPath (path : Bytes) : Bool :=
  match path with
  | '/' :: _ => true
  | ['.'] => true
  | '.' :: '/' :: _ => true
  | ['.', '.'] => true
  | '.' :: '.' :: '/' :: _ => true
  | _ => false

/-- The places to which a path may lead, each with whether it is told. -/
def destinations (f : Frame) (path : Bytes) : List (Bytes × Bool) :=
  if isPlainPath path then [(path, false)]
  else
    let path := if path.isEmpty then ['.'] else path
    match f.named? "CDPATH" with
    | none => [(path, false)]
    | some dirs =>
      (Text.splitAt ':' dirs).map (fun dir =>
        if dir.isEmpty then (path, false) else (dir ++ '/' :: path, true)) ++ [(path, false)]

/-- Goes to the first place that is a directory; answers it. -/
def goToFirst : List (Bytes × Bool) → Act (Except FileError (String × Bool))
  | [] => pure (.error .notFound)
  | (path, told) :: rest => do
    match ← work (Work.changeDirectory (Text.stringOfOctets path)) with
    | .ok directory => pure (.ok (directory, told))
    | .error e => if rest.isEmpty then pure (.error e) else goToFirst rest

def cdBuiltin : Builtin where
  perform _ _ args := do
    let (_, args) ← readOptions "LP" args
    let f ← get
    let (target, told) := match args with
      | [] => ((f.named? "HOME").getD [], false)
      | path :: _ => if path = ['-'] then ((f.named? "OLDPWD").getD [], true) else (path, false)
    match ← goToFirst (destinations f target) with
    | .error _ => abort ("can't cd to ".toList ++ target)
    | .ok (directory, found) =>
      let old := (f.named? "PWD").getD []
      modify fun f => (f.putExported "OLDPWD" old).putExported "PWD" (Text.octetsOf directory)
      if told || found then print (Text.octetsOf directory ++ ['\n']) else setStatus 0

def pwdBuiltin : Builtin where
  perform _ _ args := do
    let _ ← readOptions "LP" args
    print (Text.octetsOf (← work Work.directory) ++ ['\n'])

/-! ## Permissions -/

/-- Tells or sets the permission bits that new files are refused. -/
def umaskBuiltin : Builtin where
  perform _ _ args := do
    let (options, args) ← readOptions "S" args
    let mask ← work Work.mask
    match args with
    | [] =>
      if given options 'S' then print (FileMode.classText (0o777 - mask) ++ ['\n'])
      else print (FileMode.octalText mask ++ ['\n'])
    | s :: _ =>
      if (s.head?.map Char.isDigit).getD false then
        if s.all fun c => '0' ≤ c && c ≤ '7' then
          work (Work.setMask ((FileMode.ofText? false 0 0 s).getD 0 &&& 0o777))
          setStatus 0
        else abort ("Illegal number: ".toList ++ s)
      else
        match FileMode.ofText? false 0 (0o777 - mask) s with
        | some mode =>
          work (Work.setMask (0o777 - (mode &&& 0o777)))
          setStatus 0
        | none => abort ("Illegal mode: ".toList ++ s)

end ValidatorKeys.Shell
