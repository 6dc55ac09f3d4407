import ValidatorKeys.File.Tree
import ValidatorKeys.Shell.Pattern

/-!
# Fields

What the expansion of a word gives is a row of cells: characters that know where they came from,
and marks between them.  Fields are cut at separators that came out of an expansion, and a field
with an active pattern stands for the names that it matches.
-/

namespace ValidatorKeys.Shell

open Kernel (Bytes)

/-- Where a character of an expanded word came from. -/
inductive Origin where
  | literal
  | quoted
  | expanded
  deriving Repr, DecidableEq

/-- A part of an expanded word.  `held` makes a field even where no character does, `gap` separates
fields always, and `seam` stands where an expansion begins. -/
inductive Cell where
  | char (c : Char) (origin : Origin)
  | held
  | gap
  | seam
  deriving Repr, DecidableEq

namespace Cell

def ofText (origin : Origin) (s : Bytes) : List Cell := s.map fun c => .char c origin

/-- The cells of what an expansion gave. -/
def ofExpansion (inQuotes : Bool) (s : Bytes) : List Cell :=
  if inQuotes then .held :: ofText .quoted s else .seam :: ofText .expanded s

/-- The character that separates arguments within one expansion. -/
def between : Char := Char.ofNat 0

/-- The characters of the cells; gaps become spaces. -/
def toText (cells : List Cell) : Bytes :=
  cells.filterMap fun cell =>
    match cell with
    | .char c _ => some c
    | .gap => some ' '
    | _ => none

/-- The characters of the cells with whether they may act as part of a pattern. -/
def toMarked (cells : List Cell) : List Marked :=
  cells.filterMap fun cell =>
    match cell with
    | .char c origin => some (c, origin != .quoted)
    | .gap => some (' ', false)
    | _ => none

/-! ## Cutting into fields -/

/-- Whether a separator is a blank: several of them count as one. -/
def isBlankSeparator (c : Char) : Bool := c = ' ' || c = '\t' || c = '\n' || c = between

/-- The fields of the cells.  `current` is the field that has been begun, its characters in
reverse; `closed` tells that blanks of the same expansion have just ended one. -/
def fields (separators : Bytes) (current : Option (List Marked)) (closed : Bool) :
    List Cell → List (List Marked)
  | [] => (current.map List.reverse).toList
  | .gap :: rest => (current.map List.reverse).toList ++ fields separators none false rest
  | .held :: rest => fields separators (some (current.getD [])) false rest
  | .seam :: rest => fields separators current false rest
  | .char c origin :: rest =>
    if origin = .expanded ∧ (separators.contains c ∨ c = between) then
      if isBlankSeparator c then
        (current.map List.reverse).toList ++
          fields separators none (closed || current.isSome) rest
      else if current.isNone ∧ closed then fields separators none false rest
      else (current.getD []).reverse :: fields separators none false rest
    else
      fields separators (some ((c, origin != .quoted) :: current.getD [])) false rest

end Cell

/-! ## Names that match -/

def plainText (field : List Marked) : Bytes := field.map Prod.fst

/-- Whether one text stands before another, byte by byte. -/
def textLess : Bytes → Bytes → Bool
  | [], [] => false
  | [], _ => true
  | _, [] => false
  | a :: s, b :: t => a < b || (a == b && textLess s t)

def fieldPieces : List Marked → List (List Marked)
  | [] => [[]]
  | (c, active) :: rest =>
    match fieldPieces rest with
    | [] => [[(c, active)]]
    | p :: ps => if c = '/' then [] :: p :: ps else ((c, active) :: p) :: ps

/-- The names in a directory that a piece matches, in order. -/
def matchingNames (t : FileTree) (cwd dir : String) (piece : List Marked) : List Bytes :=
  match t.lookup cwd (if dir = "" then "." else dir) with
  | .ok (l, n) =>
    if !n.isDirectory then []
    else
      let items := Pattern.read piece
      let hidden := ((plainText piece).dropWhile (· == '\\')).head? == some '.'
      let names := (t.names l).map Text.octetsOf
      let names := if hidden then ['.'] :: ['.', '.'] :: names else names
      (names.filter fun n => (hidden || n.head? != some '.') && Pattern.isMatch items n).mergeSort
        fun a b => !textLess b a
  | .error _ => []

/-- A piece without the backslashes that keep its characters from acting. -/
def unescaped : List Marked → Bytes
  | ('\\', true) :: (c, _) :: rest => c :: unescaped rest
  | (c, _) :: rest => c :: unescaped rest
  | [] => []

/-- The paths that the pieces match, behind a path that was matched before. -/
def matchingPaths (t : FileTree) (cwd : String) : Bytes → List (List Marked) → List Bytes
  | base, [] => [base]
  | base, piece :: rest =>
    let close (path : Bytes) : Bytes := if rest.isEmpty then path else path ++ ['/']
    if Pattern.isActive piece then
      (matchingNames t cwd (Text.stringOfOctets base) piece).flatMap fun name =>
        matchingPaths t cwd (close (base ++ name)) rest
    else
      let path := base ++ unescaped piece
      if rest.isEmpty && !t.exists? cwd (Text.stringOfOctets path) then []
      else matchingPaths t cwd (close path) rest

/-- What a field stands for: the paths that it matches, or its own text. -/
def resolveField (t : FileTree) (cwd : String) (field : List Marked) : List Bytes :=
  if Pattern.isActive field then
    match matchingPaths t cwd [] (fieldPieces field) with
    | [] => [plainText field]
    | paths => paths
  else [plainText field]

end ValidatorKeys.Shell
