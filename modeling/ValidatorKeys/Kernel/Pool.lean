import ValidatorKeys.Kernel.Behaviour

/-!
# How processes take turns

A pool is a machine with what each of its processes does next.  Each has a time of its own, and the
one whose time is least makes the next step; a process that has to wait tries again when another
one has changed the machine.  The run of a pool is over when its first process has ended and nobody
holds the pipes that are watched.
-/

namespace ValidatorKeys.Kernel

/-- What a process does next, and whether it waits for the machine to change. -/
structure Turn where
  id : Nat
  behaviour : Behaviour
  blocked : Bool := false

/-- A machine with what its processes do next. -/
structure Pool where
  machine : Machine
  turns : List Turn

namespace Pool

/-! ## Times -/

def stepTime : Nat := 2

/-- How long it takes until a child makes its first step. -/
def forkTime : Nat := 150

/-- The time at which a process can make its next step, if it can at all. -/
def timeOf (m : Machine) (t : Turn) : Option Nat :=
  match m.process? t.id with
  | none => none
  | some p =>
    if p.ending.isSome || p.stopped || t.blocked then none else some p.time

/-- The process that makes the next step, with the time at which it does. -/
def nextTurn (m : Machine) : List Turn → Option (Turn × Nat)
  | [] => none
  | t :: rest =>
    match timeOf m t, nextTurn m rest with
    | none, r => r
    | some time, none => some (t, time)
    | some time, some (u, other) => if time ≤ other then some (t, time) else some (u, other)

/-! ## Steps -/

def resume (p : Pool) (id time : Nat) (b : Behaviour) : Pool where
  machine := p.machine.modifyProcess id fun q => { q with time := time }
  turns := p.turns.map fun t => if t.id == id then ⟨id, b, false⟩ else t

/-- Lets those that wait try again, from a time on. -/
def wake (p : Pool) (time : Nat) : Pool :=
  let waiting := (p.turns.filter Turn.blocked).map Turn.id
  if waiting.isEmpty then p
  else
    { machine := { p.machine with
        processes := p.machine.processes.map fun q =>
          if waiting.contains q.id then { q with time := max time q.time } else q }
      turns := p.turns.map fun t => { t with blocked := false } }

/-- Makes a process wait for the machine to change. -/
def block (p : Pool) (id : Nat) : Pool :=
  { p with turns := p.turns.map fun t => if t.id == id then { t with blocked := true } else t }

/-- The pool without what processes that have ended would do. -/
def settle (p : Pool) : Pool :=
  { p with turns := p.turns.filter fun t => p.machine.isAlive t.id }

/-- The pool after a process that acted went on with `b` on the machine `m`. -/
def acted (p : Pool) (id time : Nat) (b : Behaviour) (m : Machine) : Pool :=
  (({ p with machine := m }.resume id (time + stepTime) b).wake time).settle

/-- One step of a process at a time. -/
def step (load : Image → Behaviour) (p : Pool) (t : Turn) (time : Nat) : Pool :=
  match t.behaviour with
  | .ended e => p.acted t.id time (.ended e) (p.machine.finish t.id e)
  | .act f =>
    let (b, m) := f t.id p.machine
    p.acted t.id time b m
  | .rest d next => p.resume t.id (time + d) (next ())
  | .start i => p.resume t.id (time + stepTime) (load i)
  | .fork child next =>
    let (id, m) := p.machine.forked t.id
    let m := m.modifyProcess id fun q => { q with time := time + forkTime }
    let p : Pool := ⟨m, p.turns ++ [⟨id, child, false⟩]⟩
    p.acted t.id time (next id) m
  | .await f =>
    match f t.id p.machine with
    | some (b, m) => p.acted t.id time b m
    | none => p.block t.id

/-! ## Runs -/

/-- Whether the run of a pool is over: its first process, whose number is `id`, has ended, and
nobody holds a channel to a pipe that is watched. -/
def isOver (m : Machine) (id : Nat) : Bool :=
  !m.isAlive id &&
    !(m.processes.any fun p => p.ending.isNone && p.descriptors.any fun d =>
      match m.channels[d.channel]? with
      | some (.writing pipe) => (m.pipes[pipe]?.map Pipe.watched).getD false
      | _ => false)

/-- The time at which a limit on the run is reached: it counts from when no more than a full pipe is
left of the first pipe. -/
def limitFrom (m : Machine) (limit : Nat) (start : Option Nat) (time : Nat) : Option Nat × Bool :=
  let start := match start with
    | some s => some s
    | none =>
      match m.pipes[0]? with
      | some p =>
        if p.size ≤ Pipe.capacity || !m.isHeld (.reading 0) then some time else none
      | none => some time
  (start, match start with
    | some s => s + limit ≤ time
    | none => false)

/-- Runs a pool whose first process has the number `id`, for at most `n` steps and within a limit.
Answers whether the run came to its end, and the machine that it leaves. -/
def run (load : Image → Behaviour) (id : Nat) (limit : Option Nat) :
    Nat → Option Nat → Pool → Bool × Machine
  | 0, _, p => (false, p.machine)
  | n + 1, start, p =>
    if isOver p.machine id then (true, p.machine)
    else
      match nextTurn p.machine p.turns with
      | none => (false, p.machine)
      | some (t, time) =>
        match limit with
        | none => run load id limit n start (step load p t time)
        | some l =>
          let (start, late) := limitFrom p.machine l start time
          if late then (false, p.machine) else run load id limit n start (step load p t time)

end Pool

end ValidatorKeys.Kernel
