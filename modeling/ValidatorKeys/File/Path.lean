import ValidatorKeys.Text.Lines

/-!
# Paths as text

A path is read as parts: the root, a leading `.`, `..`, and names.  Doubled slashes, a trailing
slash and every other `.` have no part of their own.  Two paths are the same when their parts are;
`..` is never resolved here.

    join b p          = p when p is absolute, else b, a slash and p
    absolute? cwd p   = the parts of p behind cwd, with a trailing slash kept
-/

namespace ValidatorKeys.Path

/-! ## Algorithm -/

inductive Part where
  | root
  | here
  | up
  | name (text : String)
  deriving Repr, DecidableEq

def isAbsolute (p : String) : Bool := p.toList.head? == some '/'

/-- Whether a path ends in a slash. -/
def endsInSlash (p : String) : Bool := p.toList.getLast? == some '/'

/-- The texts between slashes that are not empty. -/
def pieces (p : String) : List String :=
  ((Text.splitAt '/' p.toList).filter fun s => !s.isEmpty).map String.ofList

/-- The part that a piece stands for, `.` apart. -/
def partOfPiece (s : String) : Part := if s = ".." then .up else .name s

/-- The parts of a path. -/
def parts (p : String) : List Part :=
  let rest := ((pieces p).filter (· ≠ ".")).map partOfPiece
  if isAbsolute p then .root :: rest
  else if (pieces p).head? = some "." then .here :: rest
  else rest

def same (p q : String) : Bool := parts p == parts q

/-- The path `p` as seen from `base`. -/
def join (base p : String) : String :=
  if isAbsolute p then p
  else if base = "" ∨ endsInSlash base then base ++ p
  else base ++ "/" ++ p

def joinPart (base : String) : Part → String
  | .root => "/"
  | .here => join base "."
  | .up => join base ".."
  | .name n => join base n

def joinParts (base : String) (ps : List Part) : String := ps.foldl joinPart base

/-- Whether a path begins with exactly two slashes. -/
def hasDoubleRoot (p : String) : Bool :=
  match p.toList with
  | '/' :: '/' :: '/' :: _ => false
  | '/' :: '/' :: _ => true
  | _ => false

/-- The path from the root, seen from the directory `cwd`; there is none for the empty path. -/
def absolute? (cwd p : String) : Option String :=
  if p = "" then none
  else
    let ps := (parts p).filter (· ≠ .here)
    let q :=
      if hasDoubleRoot p then joinParts "//" (ps.filter (· ≠ .root))
      else if isAbsolute p then joinParts "" ps
      else joinParts cwd ps
    some (if endsInSlash p then join q "" else q)

/-! ## Lemmas -/

theorem join_absolute (base p : String) (h : isAbsolute p = true) : join base p = p := by
  simp [join, h]

end ValidatorKeys.Path
