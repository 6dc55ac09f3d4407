import ValidatorKeys.Kernel.Image
import ValidatorKeys.Kernel.Machine

/-!
# What processes do

A behaviour is a tree: each node is one thing that a process asks of the system, and what follows
depends on the answer.  `Work α` is a part of a behaviour that ends in an `α`; it is given what
follows it.

    (pure a) k = k a                 (w >>= f) k = w (fun a => f a k)
-/

namespace ValidatorKeys.Kernel

/-- What a process does: it ends, acts on the machine, waits until something can be done, rests for a
while, makes a child, or becomes a program. -/
inductive Behaviour where
  | ended (ending : Ending)
  | act (f : Nat → Machine → Behaviour × Machine)
  | await (f : Nat → Machine → Option (Behaviour × Machine))
  | rest (microseconds : Nat) (next : Unit → Behaviour)
  | fork (child : Behaviour) (next : Nat → Behaviour)
  | start (image : Image)

/-- A part of a behaviour that ends in a value. -/
def Work (α : Type) : Type := (α → Behaviour) → Behaviour

instance : Monad Work where
  pure a := fun k => k a
  bind w f := fun k => w fun a => f a k

namespace Work

variable {α : Type}

/-! ## Primitive steps -/

/-- One step on the machine, which knows the number of the process. -/
def act (f : Nat → Machine → α × Machine) : Work α := fun k =>
  .act fun id m =>
    let (a, m) := f id m
    (k a, m)

def await (f : Nat → Machine → Option (α × Machine)) : Work α := fun k =>
  .await fun id m => (f id m).map fun (a, m) => (k a, m)

/-- Looks at the machine. -/
def ask (f : Nat → Machine → α) : Work α := act fun id m => (f id m, m)

/-- Lets time pass. -/
def rest (microseconds : Nat) : Work Unit := fun k => .rest microseconds k

def finish (e : Ending) : Work α := fun _ => .ended e

/-- Makes a child; answers its number. -/
def fork (child : Work Unit) : Work Nat := fun k =>
  .fork (child fun _ => .ended (.exited 0)) k

/-! ## Reading and writing -/

def read (number : Nat) (extent : Machine.Extent) : Work (Except FileError Bytes) :=
  await fun id m => m.readFrom id number extent

def write (number : Nat) (text : Bytes) : Work (Except FileError Unit) :=
  await fun id m => m.writeTo id number text

/-- How much is read at a time. -/
def blockSize : Nat := 65536

/-- Reads to the end, in at most `n` blocks behind what was read before. -/
def readBlocks (number : Nat) : Nat → List Bytes → Work (Except FileError Bytes)
  | 0, blocks => pure (.ok blocks.reverse.flatten)
  | n + 1, blocks => do
    match ← read number (.bytes blockSize) with
    | .error e => pure (.error e)
    | .ok [] => pure (.ok blocks.reverse.flatten)
    | .ok text => readBlocks number n (text :: blocks)

/-- How many blocks are read where nothing else ends it. -/
def blockLimit : Nat := 100000

/-- Reads to the end. -/
def readAll (number : Nat) : Work (Except FileError Bytes) := readBlocks number blockLimit []

/-! ## Descriptors -/

def openFile (path : String) (a : Machine.Access) (mode : Nat) : Work (Except FileError Nat) :=
  act fun id m =>
    match m.openFile id path a mode with
    | .ok (number, m) => (.ok number, m)
    | .error e => (.error e, m)

def close (number : Nat) : Work Unit :=
  act fun id m => ((), m.modifyProcess id fun p => p.without number)

/-- Gives another number to what a descriptor stands for; answers whether there is such a
descriptor. -/
def duplicate (number target : Nat) (closing : Bool) : Work Bool :=
  act fun id m =>
    match (m.process? id).bind fun p => p.descriptor? number with
    | some d => (true, m.modifyProcess id fun p => p.holding ⟨target, d.channel, closing⟩)
    | none => (false, m)

/-- Gives a descriptor another number, and no other one. -/
def become (number target : Nat) : Work Unit := do
  if number ≠ target then
    let _ ← duplicate number target false
    close number

/-- Puts a descriptor aside, where it stays until the process becomes another program; answers its
number there. -/
def putAside (number : Nat) : Work (Option Nat) :=
  act fun id m =>
    match m.process? id with
    | none => (none, m)
    | some p =>
      match p.descriptor? number with
      | none => (none, m)
      | some d =>
        let aside := p.freeNumber 10
        (some aside, m.modifyProcess id fun p => p.holding ⟨aside, d.channel, true⟩)

/-- Gives a number back to what was put aside; when there was nothing, closes it. -/
def putBack (number : Nat) : Option Nat → Work Unit
  | none => close number
  | some aside => do
    let _ ← duplicate aside number false
    close aside

/-- Makes a pipe that holds a text and is not written to any more; answers the number to read by. -/
def pipeWith (text : Bytes) : Work Nat :=
  act fun id m =>
    let pipe := m.pipes.size
    let m := { m with pipes := m.pipes.push (({} : Pipe).push text) }
    m.addDescriptor id (.reading pipe)

/-- Makes a pipe; answers the numbers to read and to write by. -/
def pipe : Work (Nat × Nat) :=
  act fun id m =>
    let (r, w, m) := m.addPipe id
    ((r, w), m)

/-! ## Files -/

/-- What an operation on the files answers, seen from the directory of the process. -/
def onFiles (f : FileTree → String → α) : Work α :=
  ask fun id m => f m.files (m.directoryOf id)

/-- Changes the files; answers a cause where that fails. -/
def changeFiles (f : FileTree → String → Except FileError FileTree) :
    Work (Except FileError Unit) :=
  act fun id m =>
    match f m.files (m.directoryOf id) with
    | .ok files => (.ok (), { m with files := files })
    | .error e => (.error e, m)

def contentOf (path : String) : Work (Except FileError Bytes) := do
  match ← openFile path .reading 0 with
  | .error e => pure (.error e)
  | .ok number => do
    let text ← readAll number
    close number
    pure text

def directory : Work String := ask fun id m => m.directoryOf id

/-- Goes to another directory; answers a cause where that fails. -/
def changeDirectory (path : String) : Work (Except FileError String) :=
  act fun id m =>
    match m.files.lookup (m.directoryOf id) path with
    | .error e => (.error e, m)
    | .ok (l, .directory _) =>
      let directory := "/" ++ String.intercalate "/" l.reverse
      (.ok directory, m.modifyProcess id fun p => { p with directory := directory })
    | .ok (_, _) => (.error .notDirectory, m)

/-- The permission bits that new files are refused. -/
def mask : Work Nat := ask fun id m => ((m.process? id).map Process.mask).getD 0

/-- Refuses new files other permission bits. -/
def setMask (mask : Nat) : Work Unit :=
  act fun id m => ((), m.modifyProcess id fun p => { p with mask := mask })

/-! ## Processes -/

def self : Work Nat := ask fun id _ => id

/-- The number of the parent. -/
def parent : Work Nat := ask fun id m => ((m.process? id).map Process.parent).getD 1

/-- The variables that the process was handed. -/
def environment : Work (List Bytes) :=
  ask fun id m => ((m.process? id).map Process.environment).getD []

def wait (a : Machine.Awaited) : Work (Option (Nat × Ending)) :=
  await fun id m => m.reap id a

def signal (id n : Nat) : Work Bool := act fun _ m => m.signal id n

/-- Sets what becomes of a signal: it is ignored, caught, or has its own effect. -/
def provide (n : Nat) (ignored caught : Bool) : Work Unit :=
  act fun id m => ((), m.modifyProcess id fun p =>
    { p with
      ignored := if ignored then n :: p.ignored.filter (· ≠ n) else p.ignored.filter (· ≠ n)
      caught := if caught then n :: p.caught.filter (· ≠ n) else p.caught.filter (· ≠ n) })

def takeSignals : Work (List Nat) :=
  act fun id m =>
    (((m.process? id).map Process.pending).getD [],
      m.modifyProcess id fun p => { p with pending := [] })

def startTime : Nat := 400

/-- Becomes another program, with these variables; answers why it cannot. -/
def start (image : FileTree → String → Except FileError Image) (vars : List Bytes) :
    Work FileError := fun k =>
  .act fun id m =>
    match image m.files (m.directoryOf id) with
    | .error e => (k e, m)
    | .ok i =>
      (.rest startTime fun _ => .start i,
        m.modifyProcess id fun p => { p.renewed with environment := vars })

end Work

end ValidatorKeys.Kernel
