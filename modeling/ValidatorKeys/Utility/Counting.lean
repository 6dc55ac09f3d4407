import ValidatorKeys.Utility.Options

/-!
# Counting

`wc` counts lines, words and bytes, and adds them up for all files.
-/

namespace ValidatorKeys.Utility

open Kernel (Bytes Work)

structure Counts where
  lines : Nat := 0
  words : Nat := 0
  bytes : Nat := 0

def Counts.add (a b : Counts) : Counts := ⟨a.lines + b.lines, a.words + b.words, a.bytes + b.bytes⟩

/-- Whether a character separates words. -/
def isSpace (c : Char) : Bool := c = ' ' || ('\t' ≤ c && c ≤ '\x0d')

def wordCount (s : Bytes) : Nat :=
  (s.foldl (fun (n, inside) c =>
    if isSpace c then (n, false) else (if inside then n else n + 1, true)) (0, false)).1

def countsOf (text : Bytes) : Counts :=
  { lines := text.count '\n', words := wordCount text, bytes := text.length }

/-- The size of the file at a path, none where it is no regular file; a dash stands for the input.
There may be nothing at the path. -/
def sizeAt (path : Bytes) : Run (Option (Option Nat)) :=
  work (Work.ask fun id m =>
    let size (n : Node) : Option Nat :=
      match n with
      | .file content _ => some content.size
      | _ => none
    if path = ['-'] then
      match m.channel? id 0 with
      | some (_, .file l _ _ _ _) => some ((m.files.get? l).bind size)
      | some _ => some none
      | none => none
    else
      match m.files.lookup (m.directoryOf id) (Text.stringOfOctets path) with
      | .ok (_, n) => some (size n)
      | .error _ => none)

/-- Counts lines, words and bytes; a character is a byte. -/
def wc (args : List Bytes) : Run Unit := do
  let (g, files) ← arguments { letters := "clmw" } args
  onMissingInput "-"
  let kinds := ['l', 'w', 'm', 'c'].filter g.has
  let kinds := if kinds.isEmpty then ['l', 'w', 'c'] else kinds
  let paths := if files.isEmpty then [['-']] else files
  let number (c : Counts) (kind : Char) : Nat :=
    match kind with
    | 'l' => c.lines
    | 'w' => c.words
    | _ => c.bytes
  -- The width is that of the size of all files; what is no regular file asks for seven places.
  let width ←
    if paths.length = 1 && kinds.length = 1 then pure 1
    else do
      let sizes ← paths.mapM sizeAt
      let sum := (sizes.filterMap fun s => s.bind id).foldr (· + ·) 0
      let least := if sizes.any (· = some none) then 7 else 1
      pure (max least sum.repr.length)
  let row (c : Counts) (name : Bytes) : Bytes :=
    let fields := kinds.map fun k =>
      let ds := (number c k).repr.toList
      List.replicate (width - ds.length) ' ' ++ ds
    List.intercalate [' '] fields ++ (if name.isEmpty then [] else ' ' :: name) ++ ['\n']
  let showRow (c : Counts) (path : Bytes) : Run Unit := do
    out (row c (if files.isEmpty then [] else path))
    flush
  onWriteFailure WriteFailure.known
  let sum ← paths.foldlM (fun sum path => do
    match ← contentOf path with
    | .ok text => do
      showRow (countsOf text) path
      pure (sum.add (countsOf text))
    | .error e => do
      let name := if files.isEmpty then quote "standard input".toList else quoteIfNeeded path
      complain (name ++ ": ".toList ++ e.text.toList)
      fail 1
      if e = .isDirectory || e = .badDescriptor then showRow {} path
      pure sum) ({} : Counts)
  if 1 < paths.length then out (row sum "total".toList)

end ValidatorKeys.Utility
