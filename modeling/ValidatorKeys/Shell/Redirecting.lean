import ValidatorKeys.File.Question
import ValidatorKeys.Shell.Running

/-!
# Redirections

The targets of all redirections are expanded first; then each is made in turn.  What stood under a
number before is put aside and put back behind the command.
-/

namespace ValidatorKeys.Shell

open Kernel (Bytes Work)
open Kernel.Machine (Access)

/-! ## Targets -/

/-- A redirection whose target is known. -/
inductive Target where
  | file (path : Bytes) (access : Access) (creating fresh : Bool)
  | descriptor (number : Nat)
  | closed
  | document (w : Word)

/-- A descriptor that a redirection changes, and to what. -/
structure Change where
  number : Nat
  target : Target

/-- The descriptor that a text names, which is a digit. -/
def descriptorOf? (s : Bytes) : Option Nat :=
  if s.length = 1 && s.all Char.isDigit then some (Text.decimalValue s) else none

def changeOf (run : Running) : Redirection → Act Change
  | .redirection number kind word => do
    let f ← get
    let file (access : Access) (creating fresh : Bool) : Act Change := do
      pure ⟨number, .file (← textOf (capture run) word) access creating fresh⟩
    match kind with
    | .input => file .reading false false
    | .output => file .writing true (f.has "noclobber")
    | .overwrite => file .writing true false
    | .append => file .appending true false
    | .both => file .both true false
    | .document => pure ⟨number, .document word⟩
    | .duplicate _ => do
      let text ← textOf (capture run) word
      match descriptorOf? text with
      | some k => pure ⟨number, .descriptor k⟩
      | none =>
        if text = ['-'] then pure ⟨number, .closed⟩
        else
          modify fun f => { f with line := f.readLine }
          abort "Syntax error: Bad fd number".toList

/-! ## Changes -/

/-- The text of a cause that a file cannot be opened. -/
def openComplaint (creating : Bool) (path : Bytes) (e : FileError) : Bytes :=
  let cause := match e with
    | .notFound => if creating then "Directory nonexistent" else "No such file"
    | .notDirectory => if creating then "Directory nonexistent" else "No such file"
    | e => e.text
  (if creating then "cannot create ".toList else "cannot open ".toList) ++ path ++
    ": ".toList ++ cause.toList

/-- Permission bits of files that redirections make. -/
def createdMode : Nat := 0o666

/-- Makes a change; answers whether that was possible. -/
def change (run : Running) (c : Change) : Act Bool := do
  let refused (text : Bytes) : Act Bool := do
    complain text
    pure false
  match c.target with
  | .file path access creating fresh => do
    let name := Text.stringOfOctets path
    if fresh && (← work (Work.onFiles fun t cwd => t.ask cwd 'f' name)) then
      refused (openComplaint true path .alreadyExists)
    else
      match ← work (Work.openFile name access createdMode) with
      | .error e => refused (openComplaint creating path e)
      | .ok number => do
        work (Work.become number c.number)
        pure true
  | .descriptor k => do
    if k = c.number then pure true
    else if ← work (Work.duplicate k c.number false) then pure true
    else refused (k.repr.toList ++ ": Bad file descriptor".toList)
  | .closed => do
    work (Work.close c.number)
    pure true
  | .document w =>
    -- What fails within a document is told, and the document is missing.
    try
      let number ← work (Work.pipeWith (← documentText (capture run) w))
      work (Work.become number c.number)
      pure true
    catch
      | .failed _ => pure false
      | stop => throw stop

/-- Something that was put aside: the number that it had, and the one that it has. -/
abbrev Aside := Nat × Option Nat

/-- Puts back what was put aside, the last first. -/
def putBack (asides : List Aside) : Act Unit :=
  work (asides.forM fun a => Work.putBack a.1 a.2)

/-- Makes changes, in front of which what stood there is put aside; answers whether all could be
made, and what was put aside, the last first. -/
def makeChanges (run : Running) (asides : List Aside) : List Change → Act (Bool × List Aside)
  | [] => pure (true, asides)
  | c :: rest => do
    let asides ←
      if asides.any fun a => a.1 == c.number then pure asides
      else do pure ((c.number, ← work (Work.putAside c.number)) :: asides)
    if ← change run c then makeChanges run asides rest else pure (false, asides)

/-- Runs a step behind redirections, and puts back what they changed.  When one cannot be made the
step is left out. -/
def redirecting (run : Running) (rs : List Redirection) (failed : Act Unit) (act : Act Unit) :
    Act Unit := do
  if rs.isEmpty then act
  else
    let (made, asides) ← makeChanges run [] (← rs.mapM (changeOf run))
    ensuring (if made then act else failed) (putBack asides)

/-- Makes redirections for good; answers whether all could be made. -/
def redirectForGood (run : Running) (rs : List Redirection) : Act Bool := do
  let (made, asides) ← makeChanges run [] (← rs.mapM (changeOf run))
  if made then
    work (asides.forM fun a =>
      match a.2 with
      | some aside => Work.close aside
      | none => pure ())
    pure true
  else
    putBack asides
    pure false

end ValidatorKeys.Shell
