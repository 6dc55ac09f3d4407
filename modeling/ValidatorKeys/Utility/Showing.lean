import ValidatorKeys.Utility.Options

/-!
# Showing files

`cat` prints whole files, as they are or with numbers in front of their lines, `head` prints their
first lines or bytes, and `tee` copies its input to files.
-/

namespace ValidatorKeys.Utility

open Kernel (Bytes Work)

/-! ## Whole files -/

/-- Where `cat` is in the text: how many lines have a number, and whether another one begins. -/
structure CatPlace where
  line : Nat := 0
  atStart : Bool := true

/-- A number in six places with a tab behind it. -/
def lineNumber (n : Nat) : Bytes :=
  let ds := n.repr.toList
  List.replicate (6 - ds.length) ' ' ++ ds ++ ['\t']

def numberLines : CatPlace → List Bytes → List Bytes × CatPlace
  | p, [] => ([], p)
  | p, line :: rest =>
    let n := if p.atStart then p.line + 1 else p.line
    let text := if p.atStart then lineNumber n ++ line else line
    let (texts, q) := numberLines ⟨n, line.getLast? == some '\n'⟩ rest
    (text :: texts, q)

/-- Shows what a descriptor gives, block by block, at most `n` of them. -/
def catBlocks (numbers : Bool) (name : Bytes) (number : Nat) : Nat → CatPlace → Run CatPlace
  | 0, p => pure p
  | n + 1, p => do
    match ← work (Work.read number (.bytes 65536)) with
    | .error e => do
      if number = 0 then noteInput e
      complain (quoteIfNeeded name ++ ": ".toList ++ e.text.toList)
      fail 1
      pure p
    | .ok [] => pure p
    | .ok text => do
      let (shown, p) :=
        if numbers then
          let (texts, p) := numberLines p (linesOf text)
          (texts.flatten, p)
        else (text, p)
      match ← work (Work.write 1 shown) with
      | .ok _ => catBlocks numbers name number n p
      | .error e => failWriting e

/-- Whether what a descriptor reads is what is written to, behind the place where it is read. -/
def isOwnOutput (number : Nat) : Run Bool :=
  work (Work.ask fun id m =>
    match m.channel? id number, m.channel? id 1 with
    | some (_, .file l i _ _ _), some (_, .file l' j append _ _) =>
      let size := match m.files.get? l with
        | some (.file content _) => content.size
        | _ => 0
      l == l' && i < (if append then size else j)
    | _, _ => false)

/-- Shows what a descriptor gives, unless that is what is written to. -/
def catStream (numbers : Bool) (name : Bytes) (number : Nat) (p : CatPlace) : Run CatPlace := do
  if ← isOwnOutput number then
    complain (quoteIfNeeded name ++ ": input file is output file".toList)
    fail 1
    pure p
  else catBlocks numbers name number Work.blockLimit p

/-- Shows files one behind the other. -/
def catFiles (numbers : Bool) (p : CatPlace) : List Bytes → Run Unit
  | [] => pure ()
  | path :: rest => do
    if path = ['-'] then
      let p ← catStream numbers path 0 p
      catFiles numbers p rest
    else
      match ← work (Work.openFile (Text.stringOfOctets path) .reading 0) with
      | .error e => do
        complain (quoteIfNeeded path ++ ": ".toList ++ e.text.toList)
        fail 1
        catFiles numbers p rest
      | .ok number => do
        let p ← catStream numbers path number p
        work (Work.close number)
        catFiles numbers p rest

def cat (args : List Bytes) : Run Unit := do
  let (g, files) ← arguments { letters := "nu" } args
  onMissingInput "closing standard input"
  match ← work (Work.write 1 []) with
  | .error e => abort 1 ("standard output: ".toList ++ e.text.toList)
  | .ok _ => pure ()
  catFiles (g.has 'n') {} (if files.isEmpty then [['-']] else files)

/-! ## First parts -/

/-- How much of a file is shown: lines or bytes. -/
structure Portion where
  count : Nat
  bytes : Bool := false

def Portion.of (p : Portion) (text : Bytes) : Bytes :=
  if p.bytes then text.take p.count else ((linesOf text).take p.count).flatten

def header (first : Bool) (path : Bytes) : Bytes :=
  (if first then [] else ['\n']) ++ "==> ".toList ++
    (if path = ['-'] then "standard input".toList else path) ++ " <==\n".toList

/-- Reads from a descriptor until a first part is complete, in at most `n` blocks. -/
def readPortion (p : Portion) (number : Nat) : Nat → Bytes → Run (Except FileError Bytes)
  | 0, text => pure (.ok text)
  | n + 1, text => do
    if p.count ≤ (if p.bytes then text.length else text.count '\n') then pure (.ok text)
    else
      match ← work (Work.read number (.bytes 1024)) with
      | .error e => pure (.error e)
      | .ok [] => pure (.ok text)
      | .ok more => readPortion p number n (text ++ more)

def showPortion (p : Portion) (name : Bytes) (number : Nat) : Run Unit := do
  match ← readPortion p number Work.blockLimit [] with
  | .ok text => out (p.of text)
  | .error e => do
    if number = 0 then noteInput e
    complain ("error reading ".toList ++ quoteName name ++ ": ".toList ++ e.text.toList)
    fail 1

/-- Shows the first part of each file, in front of which `names` puts its name. -/
def showPortions (p : Portion) (names first : Bool) : List Bytes → Run Unit
  | [] => pure ()
  | path :: rest => do
    if path = ['-'] then
      if names then out (header first path)
      showPortion p "standard input".toList 0
      showPortions p names false rest
    else
      match ← work (Work.openFile (Text.stringOfOctets path) .reading 0) with
      | .error e => do
        complain ("cannot open ".toList ++ quoteName path ++ " for reading: ".toList ++
          e.text.toList)
        fail 1
        showPortions p names first rest
      | .ok number => do
        if names then out (header first path)
        showPortion p path number
        work (Work.close number)
        showPortions p names false rest

def head (args : List Bytes) : Run Unit := do
  onMissingInput "-"
  let (g, files) ← arguments { letters := "c:n:" } args
  let files := if files.isEmpty then [['-']] else files
  let p : Portion ← match g.getLast? with
    | none => pure { count := 10 }
    | some (letter, text) =>
      match natural? text with
      | some n => pure ⟨n, letter = 'c'⟩
      | none =>
        let what := if letter = 'c' then "bytes" else "lines"
        abort 1 (("invalid number of " ++ what ++ ": ").toList ++ quote text)
  showPortions p (1 < files.length) true files

/-! ## Copies -/

/-- Copies the input to descriptors as long as they take it, block by block, at most `n` of them;
each has the name under which it is complained about. -/
def copyBlocks : Nat → List (Nat × Bytes) → Run Unit
  | 0, _ => pure ()
  | n + 1, outputs => do
    match ← work (Work.read 0 (.bytes 65536)) with
    | .ok [] => pure ()
    | .ok text => do
      let taking ← outputs.filterM fun (number, name) => do
        match ← work (Work.write number text) with
        | .ok _ => pure true
        | .error e => do
          complain (name ++ ": ".toList ++ e.text.toList)
          fail 1
          pure false
      if !taking.isEmpty then copyBlocks n taking
    | .error e => do
      noteInput e
      complain ("read error: ".toList ++ e.text.toList)
      fail 1

/-- Copies the input to the output and to files. -/
def tee (args : List Bytes) : Run Unit := do
  let (g, paths) ← arguments { letters := "a" } args
  let opened ← paths.mapM fun path => do
    let access : Kernel.Machine.Access := if g.has 'a' then .appending else .writing
    match ← work (Work.openFile (Text.stringOfOctets path) access 0o666) with
    | .ok number => do
      -- The streams keep their numbers even where they are closed.
      let aside ← if number < 3 then work (Work.putAside number) else pure none
      if aside.isSome then work (Work.close number)
      pure (some (aside.getD number, quoteIfNeeded path))
    | .error e => do
      complain (quoteIfNeeded path ++ ": ".toList ++ e.text.toList)
      fail 1
      pure none
  onMissingInput "standard input"
  copyBlocks Work.blockLimit ((1, quote "standard output".toList) :: opened.filterMap fun n => n)

end ValidatorKeys.Utility
