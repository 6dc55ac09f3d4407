import ValidatorKeys.File.Question
import ValidatorKeys.Kernel.Behaviour

/-!
# Runs of utilities

A utility writes its output in blocks, the last of them when it ends, and its complaints at once.  It
goes on behind most failures and remembers them in its status.
-/

namespace ValidatorKeys.Utility

open Kernel (Bytes Work)

/-- What is told when output cannot be written, and the status that it gives. -/
structure WriteFailure where
  status : FileError → Nat := fun _ => 1
  lines : FileError → List Bytes := fun e => ["write error: ".toList ++ e.text.toList]

/-- What is told where a lack of space was seen before the output was closed. -/
def WriteFailure.known : WriteFailure :=
  { lines := fun e => if e = .noSpace then ["write error".toList]
      else ["write error: ".toList ++ e.text.toList] }

/-- What a run of a utility has to remember: how it was called, what it has not written yet, and the
status with which it ends.  `missingInput` is told at the end when there was no input to read. -/
structure Session where
  name : Bytes
  pending : List Bytes := []
  size : Nat := 0
  status : Nat := 0
  writeFailure : WriteFailure := {}
  missingInput : Option Bytes := none
  inputMissed : Bool := false

abbrev Run := StateT Session Work

/-- Work of a process as a step of a utility. -/
def work {α : Type} (w : Work α) : Run α := StateT.lift w

/-! ## Output -/

/-- Writes a text to the stream for errors. -/
def tell (text : Bytes) : Run Unit := do
  let _ ← work (Work.write 2 text)

/-- Writes a line of complaint behind the name of the utility. -/
def complain (text : Bytes) : Run Unit := do
  tell ((← get).name ++ ": ".toList ++ text ++ ['\n'])

def fail (status : Nat) : Run Unit := modify fun s => { s with status := status }

/-- Writes what is pending; answers why that is not possible. -/
def writePending : Run (Option FileError) := do
  let s ← get
  set { s with pending := [], size := 0 }
  if s.size = 0 then pure none
  else
    match ← work (Work.write 1 s.pending.reverse.flatten) with
    | .ok _ => pure none
    | .error e => pure (some e)

def finish {α : Type} (status : Nat) : Run α := work (Work.finish (.exited status))

/-- Sets what is told when output cannot be written. -/
def onWriteFailure (f : WriteFailure) : Run Unit := modify fun s => { s with writeFailure := f }

/-- Sets the status that it gives when output cannot be written. -/
def onWriteStatus (status : Nat) : Run Unit := onWriteFailure { status := fun _ => status }

/-- Sets what is told at the end when there was no input to read. -/
def onMissingInput (text : String) : Run Unit :=
  modify fun s => { s with missingInput := some text.toList }

/-- Notes why the input could not be read. -/
def noteInput (e : FileError) : Run Unit :=
  if e = .badDescriptor then modify fun s => { s with inputMissed := true } else pure ()

/-- Ends the run because output cannot be written. -/
def failWriting {α : Type} (e : FileError) : Run α := do
  let s ← get
  (s.writeFailure.lines e).forM complain
  finish (s.writeFailure.status e)

/-- Writes what is pending. -/
def flush : Run Unit := do
  match ← writePending with
  | none => pure ()
  | some e => failWriting e

/-- Ends the run: what is pending is written first. -/
def close {α : Type} (status : Nat) : Run α := do
  let s ← get
  match s.missingInput, s.inputMissed with
  | some text, true => do
    flush
    complain (text ++ ": ".toList ++ FileError.badDescriptor.text.toList)
    finish 1
  | _, _ => do
    flush
    finish status

/-- How much is written at a time. -/
def blockSize : Nat := 4096

/-- Adds to the output. -/
def out (text : Bytes) : Run Unit := do
  modify fun s => { s with pending := text :: s.pending, size := s.size + text.length }
  if blockSize ≤ (← get).size then flush

def outLine (text : Bytes) : Run Unit := out (text ++ ['\n'])

/-- Ends the run with a complaint. -/
def abort {α : Type} (status : Nat) (text : Bytes) : Run α := do
  complain text
  close status

/-- What is advised behind a complaint about arguments. -/
def advice (name : Bytes) : Bytes :=
  "Try '".toList ++ name ++ " --help' for more information.".toList

/-- Ends the run with a complaint about arguments. -/
def refuse {α : Type} (status : Nat) (text : Bytes) : Run α := do
  complain text
  tell (advice (← get).name ++ ['\n'])
  close status

/-- What a file holds; a dash stands for the input. -/
def contentOf (path : Bytes) : Run (Except FileError Bytes) := do
  if path = ['-'] then
    let r ← work (Work.readAll 0)
    match r with
    | .error e => noteInput e
    | .ok _ => pure ()
    pure r
  else work (Work.contentOf (Text.stringOfOctets path))

/-- The lines of a text, each with the line feed that ends it. -/
def linesOf (text : Bytes) : List Bytes :=
  let step (r : List Bytes × Bytes) (c : Char) : List Bytes × Bytes :=
    if c = '\n' then ((c :: r.2).reverse :: r.1, []) else (r.1, c :: r.2)
  let (lines, last) := text.foldl step ([], [])
  (if last.isEmpty then lines else last.reverse :: lines).reverse

def chomp (line : Bytes) : Bytes := if line.getLast? = some '\n' then line.dropLast else line

/-- Runs a utility to its end. -/
def runAs (name : Bytes) (act : Run Unit) : Work Unit := do
  let ((), s) ← act.run { name := name }
  let _ ← (close (α := Unit) s.status).run s

/-! ## Quotes -/

/-- A text in quotes as messages have them. -/
def quote (s : Bytes) : Bytes :=
  '\x27' :: (s.flatMap fun c =>
    if c = '\x27' ∨ c = '\\' then ['\\', c]
    else if c = '\n' then ['\\', 'n']
    else if c = '\t' then ['\\', 't']
    else if c = '\r' then ['\\', 'r']
    else if c.toNat < 32 ∨ 127 ≤ c.toNat then
      let ds := Nat.toDigits 8 c.toNat
      '\\' :: List.replicate (3 - ds.length) '0' ++ ds
    else [c]) ++ ['\x27']

/-- The escape of a character that cannot be shown. -/
def hiddenEscape (c : Char) : Bytes :=
  match c with
  | '\n' => ['\\', 'n']
  | '\t' => ['\\', 't']
  | '\r' => ['\\', 'r']
  | c =>
    let ds := Nat.toDigits 8 c.toNat
    '\\' :: List.replicate (3 - ds.length) '0' ++ ds

def isShown (c : Char) : Bool := ' ' ≤ c && c ≤ '~'

/-- The name of a file in quotes that a shell would take off again. -/
def quoteName (s : Bytes) : Bytes :=
  if s.contains '\x27' && s.all fun c => isShown c && !"\"$\x60\\".toList.contains c then
    '"' :: s ++ ['"']
  else
    -- Characters that cannot be shown stand in pieces with quotes of their own.
    let pieces := s.foldl (fun (text, hidden) c =>
      if isShown c then
        (text ++ (if hidden then ['\x27', '\x27'] else []) ++
          (if c = '\x27' then ['\x27', '\\', '\x27', '\x27'] else [c]), false)
      else
        (text ++ (if hidden then [] else ['\x27', '$', '\x27']) ++ hiddenEscape c, true))
      (['\x27'], false)
    pieces.1 ++ ['\x27']

/-- The name of a file, in quotes only where a shell needs them. -/
def quoteIfNeeded (s : Bytes) : Bytes :=
  let special (c : Char) : Bool := !isShown c || " !\"$&'()*;<=>?[\\^\x60|".toList.contains c
  let isBrace := s = ['\x7b'] ∨ s = ['\x7d']
  let start := s.head? = some '~' ∨ s.head? = some '#'
  if s.isEmpty || s.any special || isBrace || start then quoteName s else s

end ValidatorKeys.Utility
