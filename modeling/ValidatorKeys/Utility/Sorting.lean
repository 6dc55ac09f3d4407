import ValidatorKeys.Utility.Options

/-!
# Sorting

`sort` puts the lines of its files in order, byte by byte.
-/

namespace ValidatorKeys.Utility

open Kernel (Bytes Work)

/-- How texts compare byte by byte. -/
def compareBytes : Bytes → Bytes → Ordering
  | [], [] => .eq
  | [], _ => .lt
  | _, [] => .gt
  | a :: s, b :: t => if a = b then compareBytes s t else if a < b then .lt else .gt

/-- Prints the lines of files in order. -/
def sort (args : List Bytes) : Run Unit := do
  onWriteFailure { status := fun _ => 2, lines := fun e =>
    [("fflush failed: 'standard output': " ++ e.text).toList, "write error".toList] }
  let (g, files) ← arguments { letters := "r", status := 2 } args
  let files := if files.isEmpty then [['-']] else files
  -- All files are looked at before the first of them is read.
  for path in files do
    if path ≠ ['-'] then
      match ← work (Work.openFile (Text.stringOfOctets path) .reading 0) with
      | .ok number => work (Work.close number)
      | .error e =>
        abort 2 ("cannot read: ".toList ++ quoteIfNeeded path ++ ": ".toList ++ e.text.toList)
  let texts ← files.mapM fun path => do
    match ← contentOf path with
    | .ok text => pure ((linesOf text).map chomp)
    | .error e =>
      if e = .badDescriptor then abort 2 ("stat failed: -: ".toList ++ e.text.toList)
      else abort 2 ("read failed: ".toList ++ quoteIfNeeded path ++ ": ".toList ++ e.text.toList)
  let sorted := texts.flatten.mergeSort fun s t =>
    if g.has 'r' then compareBytes s t != .lt else compareBytes s t != .gt
  for line in sorted do outLine line

end ValidatorKeys.Utility
