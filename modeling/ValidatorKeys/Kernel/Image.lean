import ValidatorKeys.File.Tree
import ValidatorKeys.Text.Octets

/-!
# How a program is started

A program that is known by name starts as it is.  An executable file starts through the interpreter
that its first line names behind `#!`, which gets the path of the file in front of the arguments.
Of that line only what lies within the first 256 bytes counts, and the name of the interpreter has
to end there.  An interpreter may be such a file itself, up to five times over.
-/

namespace ValidatorKeys.Kernel

/-- A program that is known by name, and its arguments from its own name on. -/
structure Image where
  program : String
  arguments : List (List Char)
  deriving Repr, DecidableEq

namespace Image

/-! ## First lines -/

/-- Whether a byte separates within a first line. -/
def isSeparator (c : Char) : Bool := c = ' ' || c = '\t'

/-- How many bytes of a file are looked at. -/
def headLength : Nat := 256

/-- The part of a first line that counts; none when the name of the interpreter may go on behind
it. -/
def firstLine? (s : List Char) : Option (List Char) :=
  let isEnd (c : Char) : Bool := c = '\n' || c = Char.ofNat 0
  let line := (s.take headLength).takeWhile fun c => !isEnd c
  if line.length < headLength then some line
  else
    let name := (line.drop 2).dropWhile isSeparator
    if name.any isSeparator then some line.dropLast else none

/-- The interpreter that a file names, and the argument that stands behind it. -/
def interpreter? (s : List Char) : Option (List Char × List (List Char)) :=
  if s.take 2 ≠ ['#', '!'] then none
  else
    match firstLine? s with
    | none => none
    | some line =>
      let rest := ((line.drop 2).reverse.dropWhile isSeparator).reverse.dropWhile isSeparator
      let name := rest.takeWhile fun c => !isSeparator c
      let argument := (rest.dropWhile fun c => !isSeparator c).dropWhile isSeparator
      if name.isEmpty then none else some (name, if argument.isEmpty then [] else [argument])

/-! ## Images -/

/-- How many interpreters may be nested. -/
def depthLimit : Nat := 5

/-- The image of the program at a path, started from the directory `cwd` with these arguments, where
`depth` more interpreters may be nested.  `name` is what the program is told to be called. -/
def within (t : FileTree) (cwd : String) :
    Nat → String → List Char → List (List Char) → Except FileError Image
  | depth, path, name, args =>
    match t.lookup cwd path with
    | .error e => .error e
    | .ok (_, .program program) => .ok ⟨program, name :: args⟩
    | .ok (_, .file content mode) =>
      if mode &&& 0o111 = 0 then .error .accessDenied
      else
        match interpreter? (Text.octets content) with
        | none => .error .notExecutable
        | some (interpreter, argument) =>
          match depth with
          | 0 =>
            match t.lookup cwd (Text.stringOfOctets interpreter) with
            | .error e => .error e
            | .ok (_, n) => .error (if n.isExecutable then .tooManyLinks else .accessDenied)
          | depth + 1 =>
            within t cwd depth (Text.stringOfOctets interpreter) interpreter
              (argument ++ Text.octetsOf path :: args)
    | .ok (_, _) => .error .accessDenied

/-- How many bytes, with the one that ends it, an argument may have. -/
def argumentLimit : Nat := 131072

/-- How many bytes all arguments and variables together may have. -/
def totalLimit : Nat := 2097152

/-- Whether arguments or variables are too long to be handed on. -/
def tooLong (texts : List (List Char)) : Bool :=
  (texts.any fun s => argumentLimit ≤ s.length) ||
    totalLimit < (texts.map fun s => s.length + 9).foldr (· + ·) 0

/-- The image of the program at a path, which is handed these arguments and variables. -/
def atPath (t : FileTree) (cwd path : String) (name : List Char) (args vars : List (List Char)) :
    Except FileError Image :=
  if tooLong (name :: args ++ vars) then .error .argumentsTooLong
  else within t cwd depthLimit path name args

/-- The image of the file at a path; one without an interpreter is a script of the shell. -/
def ofFile (t : FileTree) (cwd path : String) (name : List Char) (args vars : List (List Char)) :
    Except FileError Image :=
  match atPath t cwd path name args vars with
  | .error .notExecutable =>
    atPath t cwd "/bin/sh" "/bin/sh".toList (Text.octetsOf path :: args) vars
  | r => r

/-! ## Search -/

/-- The directories that are searched where no variable lists them. -/
def standardPath : String := "/bin:/usr/bin"

/-- The paths at which a program of this name may stand, in order of search. -/
def candidates (searchPath name : String) : List String :=
  (Text.splitAt ':' searchPath.toList).map fun dir => Path.join (String.ofList dir) name

/-- Whether the search goes on behind a candidate with this failure. -/
def isPassedOver : FileError → Bool
  | .notFound => true
  | .notDirectory => true
  | .accessDenied => true
  | _ => false

/-- The image of the first candidate that has one.  When there is none, a candidate that may not be
run outweighs those that are not there. -/
def firstOf (image : String → Except FileError Image) (failure : FileError) :
    List String → Except FileError Image
  | [] => .error failure
  | path :: rest =>
    match image path with
    | .ok i => .ok i
    | .error e =>
      if isPassedOver e then
        firstOf image (if failure = .accessDenied then failure else e) rest
      else .error e

/-- The image of a command, where `image` tells that of a path: a name with a slash is a path, any
other is searched for. -/
def search (image : String → Except FileError Image) (searchPath : Option String)
    (program : String) : Except FileError Image :=
  if program = "" then .error .notFound
  else if program.toList.contains '/' then image program
  else firstOf image .notFound (candidates (searchPath.getD standardPath) program)

/-- The image of a command that starts as it is or through the interpreter that it names. -/
def ofCommand (t : FileTree) (cwd : String) (searchPath : Option String) (program : String)
    (args vars : List (List Char)) : Except FileError Image :=
  search (fun path => atPath t cwd path (Text.octetsOf program) args vars) searchPath program

/-- The image of a command that may be a script of the shell. -/
def ofCommandOrScript (t : FileTree) (cwd : String) (searchPath : Option String)
    (program : String) (args vars : List (List Char)) : Except FileError Image :=
  search (fun path => ofFile t cwd path (Text.octetsOf program) args vars) searchPath program

end Image

end ValidatorKeys.Kernel
