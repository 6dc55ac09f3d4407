import ValidatorKeys.File.Mode
import ValidatorKeys.Utility.Printing

/-!
# Changing the tree of files

Utilities that make directories, and that change permission bits.
-/

namespace ValidatorKeys.Utility

open Kernel (Bytes Work)

/-! ## Steps -/

def pathText (s : Bytes) : String := Text.stringOfOctets s

def nodeAt (path : Bytes) : Run (Except FileError (Location × Node)) :=
  work (Work.onFiles fun t cwd => t.lookup cwd (pathText path))

/-- Changes the files; answers a cause where that fails. -/
def changing (f : FileTree → String → Except FileError FileTree) : Run (Except FileError Unit) :=
  work (Work.changeFiles f)

/-- Complains of a failure behind what was to be done, and remembers it. -/
def report (what : String) (path : Bytes) (e : FileError) : Run Unit := do
  complain (what.toList ++ quoteName path ++ ": ".toList ++ e.text.toList)
  fail 1

def within (dir name : Bytes) : Bytes :=
  if dir.getLast? = some '/' then dir ++ name else dir ++ '/' :: name

/-- How deep directories are followed. -/
def depthLimit : Nat := 1000

/-! ## Making -/

/-- The beginnings of a path that end with one of its parts. -/
def beginnings (path : Bytes) : List Bytes :=
  let rec go : Bytes → Bytes → List Bytes
    | front, [] => if front.isEmpty then [] else [front.reverse]
    | front, '/' :: rest =>
      if front.all (· = '/') || rest.head? = some '/' then go ('/' :: front) rest
      else front.reverse :: go ('/' :: front) rest
    | front, c :: rest => go (c :: front) rest
  (go [] (if path.all (· = '/') then path else withoutSlashes path))

/-- Makes one directory; answers whether that worked. -/
def makeOne (mode : Option Nat) (path : Bytes) : Run (Except FileError Unit) := do
  let mask ← work Work.mask
  let bits := mode.getD (0o777 - (0o777 &&& mask))
  changing fun t cwd => t.makeDirectory cwd (pathText path) bits

def makeAll (mode : Option Nat) : List Bytes → Run Unit
  | [] => pure ()
  | step :: rest => do
    match ← nodeAt step with
    | .ok (_, .directory _) => makeAll mode rest
    | .ok _ =>
      report "cannot create directory " step
        (if rest.isEmpty then .alreadyExists else .notDirectory)
    | .error _ => do
      match ← makeOne (if rest.isEmpty then mode else none) step with
      | .ok _ => makeAll mode rest
      | .error e => report "cannot create directory " step e

def mkdir (args : List Bytes) : Run Unit := do
  let (g, paths) ← arguments { letters := "pm:" } args
  if paths.isEmpty then refuse 1 "missing operand".toList
  let mask ← work Work.mask
  let mode ← match g.last? 'm' with
    | none => pure none
    | some s =>
      match FileMode.ofText? true mask 0o777 s with
      | some mode => pure (some mode)
      | none => abort 1 ("invalid mode ".toList ++ quote s)
  for path in paths do
    if g.has 'p' && !path.isEmpty then makeAll mode (beginnings path)
    else
      match ← makeOne mode path with
      | .ok _ => pure ()
      | .error e => report "cannot create directory " path e

/-! ## Permissions -/

/-- Changes the permission bits of what stands at a path, and of everything below it. -/
def changeModes (g : Given) (mask : Nat) (wanted : Bytes) : Nat → Bytes → Run Unit
  | 0, _ => pure ()
  | n + 1, path => do
    match ← nodeAt path with
    | .error e => report "cannot access " path e
    | .ok (l, node) => do
      let bits := (FileMode.ofText? node.isDirectory mask node.mode wanted).getD node.mode
      let _ ← changing fun t cwd => t.setMode cwd (pathText path) bits
      if g.has 'R' && node.isDirectory then
        for name in ← work (Work.onFiles fun t _ => t.names l) do
          changeModes g mask wanted n (within path (Text.octetsOf name))

/-- Changes permission bits. -/
def chmod (args : List Bytes) : Run Unit := do
  -- A change that takes bits away looks like an option.
  let isChange (s : Bytes) : Bool :=
    match s with
    | '-' :: r => !r.isEmpty && r.all fun c => "rwxXstugo,+=-01234567".toList.contains c
    | _ => false
  let marked := args.map fun s => if isChange s && s ≠ ['-', '-'] then Char.ofNat 0 :: s else s
  let (g, operands) ← arguments { letters := "R" } marked
  let mask ← work Work.mask
  match operands.map fun s => s.dropWhile (· = Char.ofNat 0) with
  | [] => refuse 1 "missing operand".toList
  | [wanted] => refuse 1 ("missing operand after ".toList ++ quote wanted)
  | wanted :: paths =>
    if (FileMode.ofText? false mask 0 wanted).isNone then
      refuse 1 ("invalid mode: ".toList ++ quote wanted)
    for path in paths do changeModes g mask wanted depthLimit path

end ValidatorKeys.Utility
