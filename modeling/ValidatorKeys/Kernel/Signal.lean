import ValidatorKeys.Text.Natural

/-!
# Signals

The signals of the system by number and name, what each does to a process that makes no provision
for it, and what is said of a process that one of them ended.
-/

namespace ValidatorKeys.Kernel.Signal

/-- The signals that have a name, in order of their numbers from one on, each with what is said of
it. -/
def table : List (String × String) :=
  [("HUP", "Hangup"), ("INT", "Interrupt"), ("QUIT", "Quit"), ("ILL", "Illegal instruction"),
    ("TRAP", "Trace/breakpoint trap"), ("ABRT", "Aborted"), ("BUS", "Bus error"),
    ("FPE", "Floating point exception"), ("KILL", "Killed"), ("USR1", "User defined signal 1"),
    ("SEGV", "Segmentation fault"), ("USR2", "User defined signal 2"), ("PIPE", "Broken pipe"),
    ("ALRM", "Alarm clock"), ("TERM", "Terminated"), ("STKFLT", "Stack fault"),
    ("CHLD", "Child exited"), ("CONT", "Continued"), ("STOP", "Stopped (signal)"),
    ("TSTP", "Stopped"), ("TTIN", "Stopped (tty input)"), ("TTOU", "Stopped (tty output)"),
    ("URG", "Urgent I/O condition"), ("XCPU", "CPU time limit exceeded"),
    ("XFSZ", "File size limit exceeded"), ("VTALRM", "Virtual timer expired"),
    ("PROF", "Profiling timer expired"), ("WINCH", "Window changed"), ("IO", "I/O possible"),
    ("PWR", "Power failure"), ("SYS", "Bad system call")]

def greatest : Nat := 64

def name? (n : Nat) : Option String := if n = 0 then none else table[n - 1]?.map Prod.fst

def ofName? (name : String) : Option Nat :=
  (table.findIdx? fun s => s.1 == name).map (· + 1)

def description (n : Nat) : String :=
  match table[n - 1]? with
  | some s => s.2
  | none => "Unknown signal " ++ n.repr

/-- What a signal does to a process that makes no provision for it. -/
inductive Effect where
  | ends
  | nothing
  | stops
  | resumes
  deriving Repr, DecidableEq

def effect (n : Nat) : Effect :=
  if n = 17 ∨ n = 23 ∨ n = 28 then .nothing
  else if n = 18 then .resumes
  else if 19 ≤ n ∧ n ≤ 22 then .stops
  else .ends

/-- The signal that ends a process whatever provision it makes. -/
def kill : Nat := 9

/-- The signal that stops a process whatever provision it makes. -/
def stop : Nat := 19

/-- The signal of writing where nobody reads. -/
def brokenPipe : Nat := 13

/-- The signal that tells of the end of a child. -/
def child : Nat := 17

/-- The signal that asks a process to end. -/
def terminate : Nat := 15

end ValidatorKeys.Kernel.Signal
