import ValidatorKeys.File.Tree
import ValidatorKeys.Kernel.Signal
import ValidatorKeys.Text.Octets

/-!
# The machine that processes run on

A machine holds the files, the pipes, the channels that processes have open, and what the system
knows of each process.  A descriptor of a process is a number for a channel; processes and
descriptors may share one, and then share its position too.  Times are in microseconds.

All text is held byte by byte, each byte as the character of its number.
-/

namespace ValidatorKeys.Kernel

/-! ## State -/

abbrev Bytes := List Char

/-- A pipe: what was written and not yet read.  What is written to a pipe that is watched is taken
away at once by somebody outside. -/
structure Pipe where
  front : Bytes := []
  back : List Bytes := []
  size : Nat := 0
  watched : Bool := false

/-- What a descriptor stands for. -/
inductive Channel where
  | reading (pipe : Nat)
  | writing (pipe : Nat)
  | file (location : Location) (position : Nat) (append readable writable : Bool)
  | directory (location : Location)
  | device (node : Node)
  deriving DecidableEq

/-- A descriptor of a process: its number, the number of its channel, and whether it is closed when
the process becomes another program. -/
structure Descriptor where
  number : Nat
  channel : Nat
  closing : Bool := false
  deriving Repr, DecidableEq

inductive Ending where
  | exited (status : Nat)
  | killed (signal : Nat)
  deriving Repr, DecidableEq

/-- What the system knows of a process. -/
structure Process where
  id : Nat
  parent : Nat
  descriptors : List Descriptor := []
  directory : String
  mask : Nat := 0o022
  environment : List Bytes := []
  ignored : List Nat := []
  caught : List Nat := []
  pending : List Nat := []
  stopped : Bool := false
  ending : Option Ending := none
  time : Nat := 0
  deriving Repr, DecidableEq

/-- Everything that processes read and change. -/
structure Machine where
  files : FileTree
  pipes : Array Pipe := #[]
  channels : Array Channel := #[]
  processes : List Process := []
  next : Nat := 2

namespace Pipe

/-- How much a pipe holds before writing to it has to wait. -/
def capacity : Nat := 65536

/-- The pipe with a text more. -/
def push (p : Pipe) (text : Bytes) : Pipe :=
  { p with back := text :: p.back, size := p.size + text.length }

def content (p : Pipe) : Bytes := p.front ++ p.back.reverse.flatten

/-- Takes up to `n` bytes from a pipe. -/
def take (p : Pipe) (n : Nat) : Bytes × Pipe :=
  let all := if p.back.isEmpty then p.front else p.content
  let taken := all.take n
  (taken, { p with front := all.drop n, back := [], size := p.size - taken.length })

/-- Takes bytes up to and with a line feed; if there is none, everything. -/
def takeLine (p : Pipe) : Bytes × Pipe :=
  let all := p.content
  let line := all.takeWhile (· ≠ '\n')
  p.take (line.length + 1)

end Pipe

namespace Process

def descriptor? (p : Process) (number : Nat) : Option Descriptor :=
  p.descriptors.find? fun d => d.number == number

def without (p : Process) (number : Nat) : Process :=
  { p with descriptors := p.descriptors.filter fun d => d.number != number }

/-- The process with a descriptor, in place of one with its number. -/
def holding (p : Process) (d : Descriptor) : Process :=
  { p with descriptors := d :: (p.without d.number).descriptors }

/-- The least number from `least` on that no descriptor has. -/
def freeNumber (p : Process) (least : Nat) : Nat :=
  let taken := p.descriptors.map Descriptor.number
  ((List.range (taken.length + 1)).map (· + least)).find? (fun n => !taken.contains n)
    |>.getD least

def renewed (p : Process) : Process :=
  { p with descriptors := p.descriptors.filter fun d => !d.closing, caught := [] }

def noting (p : Process) (n : Nat) : Process :=
  { p with pending := if p.pending.contains n then p.pending else p.pending ++ [n] }

end Process

namespace Machine

/-! ## Processes -/

def process? (m : Machine) (id : Nat) : Option Process := m.processes.find? fun p => p.id == id

/-- Changes a process. -/
def modifyProcess (m : Machine) (id : Nat) (f : Process → Process) : Machine :=
  { m with processes := m.processes.map fun p => if p.id == id then f p else p }

def channel? (m : Machine) (id number : Nat) : Option (Nat × Channel) := do
  let p ← m.process? id
  let d ← p.descriptor? number
  let c ← m.channels[d.channel]?
  pure (d.channel, c)

def isHeld (m : Machine) (c : Channel) : Bool :=
  m.processes.any fun p =>
    p.ending.isNone && p.descriptors.any fun d => m.channels[d.channel]? == some c

def directoryOf (m : Machine) (id : Nat) : String :=
  ((m.process? id).map Process.directory).getD "/"

/-- Ends a process: its descriptors are closed, and its parent is told if that provides for it. -/
def finish (m : Machine) (id : Nat) (e : Ending) : Machine :=
  match m.process? id with
  | some { ending := none, parent, .. } =>
    let m := m.modifyProcess id fun p => { p with ending := some e, descriptors := [] }
    m.modifyProcess parent fun p =>
      if p.caught.contains Signal.child then p.noting Signal.child else p
  | _ => m

def isAlive (m : Machine) (id : Nat) : Bool :=
  match m.process? id with
  | some p => p.ending.isNone
  | none => false

/-- Sends a signal to a process; answers whether there is such a process. -/
def signal (m : Machine) (id n : Nat) : Bool × Machine :=
  match m.process? id with
  | none => (false, m)
  | some p =>
    if n = 0 then (true, m)
    else if n = Signal.kill then (true, m.finish id (.killed n))
    else if p.ignored.contains n ∧ n ≠ Signal.stop then (true, m)
    else if p.caught.contains n ∧ n ≠ Signal.stop then
      (true, m.modifyProcess id fun p => p.noting n)
    else
      match Signal.effect n with
      | .ends => (true, m.finish id (.killed n))
      | .nothing => (true, m)
      | .stops => (true, m.modifyProcess id fun p => { p with stopped := true })
      | .resumes => (true, m.modifyProcess id fun p => { p with stopped := false })

/-- A process like another one, which is its parent. -/
def forked (m : Machine) (id : Nat) : Nat × Machine :=
  match m.process? id with
  | none => (m.next, m)
  | some p =>
    (m.next, { m with
      processes := m.processes ++ [{ p with id := m.next, parent := id, pending := [] }]
      next := m.next + 1 })

/-! ## Channels -/

def addChannel (m : Machine) (c : Channel) : Nat × Machine :=
  (m.channels.size, { m with channels := m.channels.push c })

/-- Gives a process a descriptor for a new channel; answers the number of the descriptor. -/
def addDescriptor (m : Machine) (id : Nat) (c : Channel) : Nat × Machine :=
  let (channel, m) := m.addChannel c
  let number := ((m.process? id).map fun p => p.freeNumber 0).getD 0
  (number, m.modifyProcess id fun p => p.holding ⟨number, channel, false⟩)

/-- How a file is opened. -/
structure Access where
  readable : Bool := false
  writable : Bool := false
  append : Bool := false
  create : Bool := false
  truncate : Bool := false
  deriving Repr, DecidableEq

namespace Access

def reading : Access := { readable := true }

/-- For writing from the start on, with nothing kept. -/
def writing : Access := { writable := true, create := true, truncate := true }

def appending : Access := { writable := true, create := true, append := true }

/-- For reading and writing, with everything kept. -/
def both : Access := { readable := true, writable := true, create := true }

end Access

/-- Opens what stands at a location for a process. -/
def openNode (m : Machine) (id : Nat) (l : Location) (n : Node) (a : Access) :
    Except FileError (Nat × Machine) :=
  match n with
  | .directory _ =>
    if a.writable then .error .isDirectory else .ok (m.addDescriptor id (.directory l))
  | .file _ mode =>
    let files :=
      if a.truncate && a.writable then m.files.set l (.file ByteArray.empty mode) else m.files
    .ok (({ m with files := files }).addDescriptor id (.file l 0 a.append a.readable a.writable))
  | .program _ =>
    if a.writable then .error .textBusy
    else .ok (m.addDescriptor id (.file l 0 false a.readable false))
  | .stream number =>
    match (m.process? id).bind fun p => p.descriptor? number with
    | some d =>
      let free := ((m.process? id).map fun p => p.freeNumber 0).getD 0
      .ok (free, m.modifyProcess id fun p => p.holding ⟨free, d.channel, false⟩)
    | none => .error .notFound
  | device => .ok (m.addDescriptor id (.device device))

/-- Opens the file at a path for a process; answers the number of the descriptor. -/
def openFile (m : Machine) (id : Nat) (path : String) (a : Access) (mode : Nat) :
    Except FileError (Nat × Machine) :=
  match m.process? id with
  | none => .error .badDescriptor
  | some p =>
    match m.files.locate p.directory path with
    | .error e => .error e
    | .ok l =>
      match m.files.get? l with
      | some n =>
        if Path.endsInSlash path && !n.isDirectory then .error .notDirectory
        else m.openNode id l n a
      | none =>
        if !a.create then .error .notFound
        else if Path.endsInSlash path then .error .isDirectory
        else
          let n := Node.file ByteArray.empty (mode - (mode &&& p.mask))
          ({ m with files := m.files.set l n }).openNode id l n a

/-- Gives a process both ends of a new pipe: the numbers to read and to write by. -/
def addPipe (m : Machine) (id : Nat) : Nat × Nat × Machine :=
  let pipe := m.pipes.size
  let m := { m with pipes := m.pipes.push {} }
  let (r, m) := m.addDescriptor id (.reading pipe)
  let (w, m) := m.addDescriptor id (.writing pipe)
  (r, w, m)

/-! ## Reading and writing -/

/-- How much is to be read at most. -/
inductive Extent where
  | bytes (n : Nat)
  | line
  deriving Repr, DecidableEq

/-- The part of a text that an extent admits. -/
def Extent.clip (s : Bytes) : Extent → Bytes
  | .bytes n => s.take n
  | .line => s.take ((s.takeWhile (· ≠ '\n')).length + 1)

/-- What reading answers: a text, which is empty at the end; none while it has to wait. -/
def readFrom (m : Machine) (id number : Nat) (extent : Extent) :
    Option (Except FileError Bytes × Machine) :=
  match m.channel? id number with
  | none => some (.error .badDescriptor, m)
  | some (index, channel) =>
    match channel with
    | .reading pipe =>
      match m.pipes[pipe]? with
      | none => some (.error .badDescriptor, m)
      | some p =>
        if p.size = 0 then
          if m.isHeld (.writing pipe) then none else some (.ok [], m)
        else
          let (text, p) := match extent with
            | .bytes n => p.take n
            | .line => p.takeLine
          some (.ok text, { m with pipes := m.pipes.set! pipe p })
    | .file l position append true writable =>
      match m.files.get? l with
      | some (.file content _) =>
        let text := match extent with
          | .bytes n => Text.octets (content.extract position (position + n))
          | .line => extent.clip (Text.octets (content.extract position content.size))
        let channel := Channel.file l (position + text.length) append true writable
        some (.ok text, { m with channels := m.channels.set! index channel })
      | _ => some (.ok [], m)
    | .file _ _ _ false _ => some (.error .badDescriptor, m)
    | .directory _ => some (.error .isDirectory, m)
    | .writing _ => some (.error .badDescriptor, m)
    | .device .nullDevice => some (.ok [], m)
    | .device _ =>
      match extent with
      | .bytes n => some (.ok (List.replicate n (Char.ofNat 0)), m)
      | .line => some (.ok [], m)

/-- What writing answers; none while it has to wait. -/
def writeTo (m : Machine) (id number : Nat) (text : Bytes) :
    Option (Except FileError Unit × Machine) :=
  match m.channel? id number with
  | none => some (.error .badDescriptor, m)
  | some (index, channel) =>
    match channel with
    | .writing pipe =>
      match m.pipes[pipe]? with
      | none => some (.error .badDescriptor, m)
      | some p =>
        if p.watched then some (.ok (), { m with pipes := m.pipes.set! pipe (p.push text) })
        else if !m.isHeld (.reading pipe) then
          some (.error .brokenPipe, (m.signal id Signal.brokenPipe).2)
        else if Pipe.capacity ≤ p.size && !text.isEmpty then none
        else some (.ok (), { m with pipes := m.pipes.set! pipe (p.push text) })
    | .file l position append readable true =>
      match m.files.get? l with
      | some (.file content mode) =>
        let start := if append then content.size else position
        let content := FileTree.overwrite content start (Text.ofOctets text)
        let channel := Channel.file l (start + text.length) append readable true
        some (.ok (), { m with
          files := m.files.set l (.file content mode), channels := m.channels.set! index channel })
      | _ => some (.ok (), m)
    | .device .fullDevice => some (if text.isEmpty then .ok () else .error .noSpace, m)
    | .device _ => some (.ok (), m)
    | _ => some (.error .badDescriptor, m)

/-! ## Waiting -/

/-- Whom a process waits for. -/
inductive Awaited where
  | anyChild
  | child (id : Nat)
  deriving Repr, DecidableEq

/-- What a wait answers: a child that has ended, which is then forgotten, or `some none` when there
is no such child; none while it has to go on. -/
def reap (m : Machine) (id : Nat) (a : Awaited) : Option (Option (Nat × Ending) × Machine) :=
  let wanted (p : Process) : Bool := p.parent == id && match a with
    | .anyChild => true
    | .child c => p.id == c
  let children := m.processes.filter wanted
  if children.isEmpty then some (none, m)
  else
    match children.findSome? fun p => p.ending.map fun e => (p.id, e) with
    | some (c, e) =>
      some (some (c, e), { m with processes := m.processes.filter fun p => p.id != c })
    | none => none

end Machine

end ValidatorKeys.Kernel
