import ValidatorKeys.Utility.Options
import ValidatorKeys.Utility.Sorting

/-!
# Listing directories

`ls` prints names in order, those of files first and then what is in each directory.
-/

namespace ValidatorKeys.Utility

open Kernel (Bytes Work)

namespace Listing

/-- A name with the location for which it stands and with what is there. -/
structure Entry where
  name : Bytes
  location : Location
  node : Node

def inOrder (es : List Entry) : List Entry :=
  es.mergeSort fun a b => compareBytes a.name b.name != .gt

def printEntries (es : List Entry) : Run Unit := (inOrder es).forM fun e => outLine e.name

def entriesOf (g : Given) (t : FileTree) (l : Location) : List Entry :=
  let node? (name : String) (l : Location) : Option Entry :=
    (t.get? l).map fun n => ⟨Text.octetsOf name, l, n⟩
  let isLeftOut (name : String) : Bool := !(g.has 'a' || g.has 'A') && name.startsWith "."
  (if g.has 'a' then (node? "." l).toList ++ (node? ".." l.tail).toList else []) ++
    (((t.names l).filter fun s => !isLeftOut s).filterMap fun s => node? s (s :: l))

def printDirectories (g : Given) (t : FileTree) (titled first : Bool) : List Entry → Run Unit
  | [] => pure ()
  | dir :: rest => do
    if titled then
      if !first then out ['\n']
      out (dir.name ++ ":\n".toList)
    printEntries (entriesOf g t dir.location)
    printDirectories g t titled false rest

end Listing

open Listing in
def ls (args : List Bytes) : Run Unit := do
  onWriteStatus 2
  let (g, paths) ← arguments { letters := "aAd1", status := 2 } args
  let t ← work (Work.onFiles fun t _ => t)
  let cwd ← work Work.directory
  let mut found : List Entry := []
  for path in if paths.isEmpty then [['.']] else paths do
    match t.lookup cwd (Text.stringOfOctets path) with
    | .ok (l, n) => found := found ++ [⟨path, l, n⟩]
    | .error e =>
      complain ("cannot access ".toList ++ quoteName path ++ ": ".toList ++ e.text.toList)
      fail 2
  let isOpened (e : Entry) : Bool := e.node.isDirectory && !g.has 'd'
  let files := found.filter fun e => !isOpened e
  let dirs := inOrder (found.filter isOpened)
  printEntries files
  if !files.isEmpty && !dirs.isEmpty then out ['\n']
  printDirectories g t (1 < paths.length) true dirs

end ValidatorKeys.Utility
