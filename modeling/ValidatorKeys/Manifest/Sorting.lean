import ValidatorKeys.File.Tree
import ValidatorKeys.Node.RunError
import ValidatorKeys.Text.Blank
import ValidatorKeys.Text.Lowercase
import ValidatorKeys.Toml.Reserved

/-!
# Sorting the dependencies of a manifest

The dependencies of a manifest are grouped by the lowercase first character of their name, the
groups in the order of their characters.  Within a group the order of the document is kept.

    sortedNames ns    = the names, stably sorted by group
    sort text         = the text with one line for each dependency in that order, or nothing to do

Only the lines between the header and the next line that opens a bracket are replaced; what stood
there besides the entries is gone.
-/

namespace ValidatorKeys.Manifest

/-! ## Order of names -/

/-- The group of a name; the empty name has none. -/
def group (name : String) : Option Char := name.toList.head?.map Text.lowercaseHead

/-- Position of a group: none before all others, the others by code point. -/
def groupRank : Option Char → Nat
  | none => 0
  | some c => c.toNat + 1

/-- Whether a name may stand before another. -/
def mayPrecede (a b : String) : Bool := groupRank (group a) ≤ groupRank (group b)

/-- The names in sorted order. -/
def sortedNames (names : List String) : List String := names.mergeSort mayPrecede

/-! ## Manifests -/

/-- Why a manifest could not be sorted. -/
inductive Error where
  | read (path : String) (cause : FileError)
  | parse (path : String)
  | write (path : String) (cause : FileError)
  | dottedSections (path : String)
  deriving Repr, DecidableEq

/-- The text of a failure; that of a manifest that is not TOML ends where the reason would
follow. -/
def Error.message : Error → String
  | .read path cause => "failed to read manifest " ++ path ++ ": " ++ cause.message
  | .parse path => "failed to parse manifest " ++ path ++ ": "
  | .write path cause => "failed to write manifest " ++ path ++ ": " ++ cause.message
  | .dottedSections path =>
    path ++ ": `[dependencies.<name>]` sub-sections are not supported, use inline tables"

def Error.cause? : Error → Option FileError
  | .read _ cause => some cause
  | .write _ cause => some cause
  | _ => none

/-- Result of sorting: the new text when the order changed, and the number of dependencies. -/
structure Outcome where
  text : Option String
  entries : Nat
  deriving Repr, DecidableEq

def Outcome.changed (o : Outcome) : Bool := o.text.isSome

/-- Whether a line, blanks at its start apart, begins with a text. -/
def opensWith (opening : List Char) (line : List Char) : Bool :=
  opening.isPrefixOf (Text.trimStart line)

/-- Whether a line opens the section of dependencies. -/
def isDependencyHeader (line : List Char) : Bool := opensWith "[dependencies]".toList line

/-- Whether a line opens the section of a single dependency. -/
def isDottedHeader (line : List Char) : Bool := opensWith "[dependencies.".toList line

def opensBracket (line : List Char) : Bool := opensWith ['['] line

/-- The name of a dependency as it is written. -/
def writtenName (name : String) : List Char :=
  if Toml.isBareKey name.toList then name.toList else Toml.written name.toList

def entryLine (name : String) (v : Toml.Value) : List Char :=
  writtenName name ++ [' ', '=', ' '] ++ v.text

def entryLines (deps : Toml.Table) : List (List Char) :=
  (sortedNames deps.keys).filterMap fun name => (deps.get? name).map (entryLine name)

def joinLines (lines : List (List Char)) : List Char := List.intercalate ['\n'] lines

/-- The lines of a manifest with the body of the section replaced; none when no line opens it. -/
def replaceBody (lines entries : List (List Char)) : Option (List (List Char)) :=
  match lines.dropWhile fun l => !isDependencyHeader l with
  | [] => none
  | header :: after =>
    let rest := after.dropWhile fun l => !opensBracket l
    some (lines.takeWhile (fun l => !isDependencyHeader l) ++ header :: entries ++
      if rest.isEmpty then [] else [] :: rest)

def sort (content path : String) : Except Error Outcome :=
  let text := content.toList
  match Toml.parseWithDateTimes? text with
  | none => .error (.parse path)
  | some doc =>
    match doc.get? "dependencies" with
    | some (.table deps) =>
      let unchanged : Outcome := ⟨none, deps.length⟩
      if Toml.Table.keys deps = sortedNames (Toml.Table.keys deps) then .ok unchanged
      else if (Text.lines text).any isDottedHeader then .error (.dottedSections path)
      else
        match replaceBody (Text.lines text) (entryLines deps) with
        | none => .ok unchanged
        | some lines =>
          let ending := if text.getLast? = some '\n' then ['\n'] else []
          .ok ⟨some (String.ofList (joinLines lines ++ ending)), deps.length⟩
    | _ => .ok ⟨none, 0⟩

/-- Sorts the manifest at a path; with `checkOnly` nothing is written. -/
def sortFile (t : FileTree) (cwd path : String) (checkOnly : Bool) :
    Except Error (Outcome × FileTree) :=
  match t.readText cwd path with
  | .error e => .error (.read path e)
  | .ok content =>
    match sort content path with
    | .error e => .error e
    | .ok outcome =>
      match outcome.text with
      | none => .ok (outcome, t)
      | some text =>
        if checkOnly then .ok (outcome, t)
        else
          match t.write cwd path (Text.encode text) 0o644 with
          | .ok t => .ok (outcome, t)
          | .error e => .error (.write path e)

end ValidatorKeys.Manifest
