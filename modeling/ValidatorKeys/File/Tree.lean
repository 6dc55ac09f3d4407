import ValidatorKeys.File.Error
import ValidatorKeys.File.Path
import ValidatorKeys.Text.Utf8

/-!
# File trees

The files that a run sees: regular files with content and permission bits, directories, programs
that are known by name, devices, and names for the streams that a process has open.  A location
lists the names on the way to the root, the innermost first.

    (t.set l n).get? l = some n          (t.set l n).get? k = t.get? k for every other k

Paths are followed name by name.  Everything on the way has to be a directory, `..` goes to the
directory above, and a trailing slash asks for a directory at the end.  A path of 4096 bytes or
more, or with a name of more than 255, is too long.  Permission bits decide only whether a file may
be run: reading and writing are always allowed.
-/

namespace ValidatorKeys

/-! ## Nodes and locations -/

/-- Contents are compared byte by byte. -/
instance (priority := high) contentDecidableEq : DecidableEq ByteArray := ByteArray.instDecidableEq

/-- What stands at a location. -/
inductive Node where
  | file (content : ByteArray) (mode : Nat)
  | directory (mode : Nat)
  | program (name : String)
  | nullDevice
  | zeroDevice
  | fullDevice
  | stream (descriptor : Nat)
  deriving DecidableEq

/-- Names from the innermost outwards; the root is the empty list. -/
abbrev Location := List String

/-- Nodes by location. -/
structure FileTree where
  entries : List (Location × Node) := []

namespace Node

def isDirectory : Node → Bool
  | .directory _ => true
  | _ => false

def mode : Node → Nat
  | .file _ m => m
  | .directory m => m
  | .program _ => 0o755
  | .nullDevice => 0o666
  | .zeroDevice => 0o666
  | .fullDevice => 0o666
  | .stream _ => 0o600

def withMode (m : Nat) : Node → Node
  | .file content _ => .file content m
  | .directory _ => .directory m
  | n => n

/-- Whether a node is a regular file that may be run: some executable bit is set. -/
def isExecutable : Node → Bool
  | .file _ m => m &&& 0o111 != 0
  | .program _ => true
  | _ => false

end Node

namespace FileTree

/-! ## Algorithm -/

/-- The node at a location; at the root there is always a directory. -/
def get? (t : FileTree) (l : Location) : Option Node :=
  match t.entries.find? fun e => e.1 == l with
  | some e => some e.2
  | none => if l = [] then some (.directory 0o755) else none

def set (t : FileTree) (l : Location) (n : Node) : FileTree :=
  ⟨(l, n) :: t.entries.filter fun e => e.1 != l⟩

def names (t : FileTree) (l : Location) : List String :=
  t.entries.filterMap fun e =>
    match e.1 with
    | name :: parent => if parent = l then some name else none
    | [] => none

/-- The location one piece further. -/
def step (l : Location) (piece : String) : Location :=
  if piece = "." then l else if piece = ".." then l.tail else piece :: l

/-- Follows pieces from a location.  Nothing needs to stand at the end. -/
def follow (t : FileTree) (l : Location) : List String → Except FileError Location
  | [] => .ok l
  | piece :: rest =>
    match t.get? l with
    | none => .error .notFound
    | some n =>
      if !n.isDirectory then .error .notDirectory
      else if 255 < piece.utf8ByteSize then .error .nameTooLong
      else t.follow (step l piece) rest

/-- How long a path has to be, in bytes, to be too long. -/
def pathLimit : Nat := 4096

/-- The location that a path names, seen from the directory `cwd`. -/
def locate (t : FileTree) (cwd path : String) : Except FileError Location :=
  if path.toList.any (· == Char.ofNat 0) then .error .nulInPath
  else if pathLimit ≤ path.utf8ByteSize then .error .nameTooLong
  else if path = "" then .error .notFound
  else t.follow [] (Path.pieces (Path.join cwd path))

def lookup (t : FileTree) (cwd path : String) : Except FileError (Location × Node) :=
  match t.locate cwd path with
  | .error e => .error e
  | .ok l =>
    match t.get? l with
    | none => .error .notFound
    | some n =>
      if Path.endsInSlash path && !n.isDirectory then .error .notDirectory else .ok (l, n)

def exists? (t : FileTree) (cwd path : String) : Bool :=
  match t.lookup cwd path with
  | .ok _ => true
  | .error _ => false

def runnable? (t : FileTree) (cwd path : String) : Bool :=
  match t.lookup cwd path with
  | .ok (_, n) => n.isExecutable
  | .error _ => false

def read (t : FileTree) (cwd path : String) : Except FileError ByteArray :=
  match t.lookup cwd path with
  | .error e => .error e
  | .ok (_, .file content _) => .ok content
  | .ok (_, .directory _) => .error .isDirectory
  | .ok (_, _) => .ok ByteArray.empty

def readText (t : FileTree) (cwd path : String) : Except FileError String :=
  match t.read cwd path with
  | .error e => .error e
  | .ok bytes =>
    match Text.decode? bytes with
    | some s => .ok s
    | none => .error .notText

/-- Opens the file at a path for writing and empties it.  A file that is not there is made with the
given permission bits, one that is there keeps its own. -/
def openEmpty (t : FileTree) (cwd path : String) (mode : Nat) :
    Except FileError (Location × FileTree) :=
  match t.locate cwd path with
  | .error e => .error e
  | .ok l =>
    if Path.endsInSlash path then .error .isDirectory
    else
      match t.get? l with
      | some (.directory _) => .error .isDirectory
      | some (.file _ m) => .ok (l, t.set l (.file ByteArray.empty m))
      | some _ => .ok (l, t)
      | none => .ok (l, t.set l (.file ByteArray.empty mode))

/-- A content with bytes written over it from a position on; a gap is filled with zeros. -/
def overwrite (content : ByteArray) (position : Nat) (bytes : ByteArray) : ByteArray :=
  content.extract 0 position ++ ⟨Array.replicate (position - content.size) 0⟩ ++ bytes ++
    content.extract (position + bytes.size) content.size

/-- Writes bytes at a position of an open file.  What is written to a file that is gone is lost. -/
def writeAt (t : FileTree) (l : Location) (position : Nat) (bytes : ByteArray) :
    Except FileError FileTree :=
  match t.get? l with
  | some (.file content mode) => .ok (t.set l (.file (overwrite content position bytes) mode))
  | some .fullDevice => if bytes.size = 0 then .ok t else .error .noSpace
  | _ => .ok t

def write (t : FileTree) (cwd path : String) (bytes : ByteArray) (mode : Nat) :
    Except FileError FileTree :=
  match t.openEmpty cwd path mode with
  | .error e => .error e
  | .ok (l, t) => t.writeAt l 0 bytes

def makeDirectory (t : FileTree) (cwd path : String) (mode : Nat) : Except FileError FileTree :=
  match t.locate cwd path with
  | .error e => .error e
  | .ok l =>
    match t.get? l with
    | some _ => .error .alreadyExists
    | none => .ok (t.set l (.directory mode))

/-- Gives what stands at a path other permission bits. -/
def setMode (t : FileTree) (cwd path : String) (mode : Nat) : Except FileError FileTree :=
  match t.lookup cwd path with
  | .error e => .error e
  | .ok (l, n) => .ok (t.set l (n.withMode mode))

/-- Makes the missing directories along the pieces. -/
def makeDirectories (t : FileTree) (l : Location) : List String → FileTree × Location
  | [] => (t, l)
  | piece :: rest =>
    let next := step l piece
    let t := match t.get? next with
      | some _ => t
      | none => t.set next (.directory 0o755)
    t.makeDirectories next rest

/-- Puts a node at a path, with the directories that it needs. -/
def put (t : FileTree) (cwd path : String) (n : Node) : FileTree :=
  let pieces := Path.pieces (Path.join cwd path)
  let (t, parent) := t.makeDirectories [] pieces.dropLast
  match pieces.getLast? with
  | some piece => t.set (step parent piece) n
  | none => t

/-! ## Lemmas -/

@[simp] theorem get?_set_self (t : FileTree) (l : Location) (n : Node) :
    (t.set l n).get? l = some n := by
  simp [set, get?]

@[simp] theorem get?_set_of_ne (t : FileTree) (l k : Location) (n : Node) (h : k ≠ l) :
    (t.set l n).get? k = t.get? k := by
  have hk : (l == k) = false := by simpa using fun e : l = k => h e.symm
  have hf : (t.entries.filter fun e => e.1 != l).find? (fun e => e.1 == k) =
      t.entries.find? fun e => e.1 == k := by
    rw [List.find?_filter]
    congr 1
    funext e
    by_cases he : e.1 = k
    · simp [he, h]
    · simp [he]
  simp [set, get?, hk, hf]

end FileTree

end ValidatorKeys
