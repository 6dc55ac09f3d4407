import ValidatorKeys.Environment
import ValidatorKeys.Node.RunError
import ValidatorKeys.Provision.Notice

/-!
# Sessions and runners

A session is what a run works on: the files, the commands issued so far, the notices so far, and the
state of the runner.  A runner answers a command with the text that it printed or with a failure,
and may change the files meanwhile.  `Scripted` is the runner that reads its answers from a list.
-/

namespace ValidatorKeys

/-- A command that was issued, with what it got on standard input. -/
structure Call where
  command : Command
  input : Option String
  deriving DecidableEq

/-- What a runner answers, and what it leaves. -/
structure Reply (σ : Type) where
  answer : Except RunError String
  files : FileTree
  state : σ
  notices : List Notice := []

/-- Runs commands to their end; the answer of one that succeeds is its trimmed output. -/
structure Runner (σ : Type) where
  run : Command → Option String → FileTree → σ → Reply σ

/-- Everything a run reads and writes. -/
structure Session (σ : Type) where
  files : FileTree
  state : σ
  calls : List Call := []
  notices : List Notice := []

/-- A step of a run: it may fail, and what it did up to then stays done. -/
abbrev Run (σ ε α : Type) := ExceptT ε (StateM (Session σ)) α

namespace Run

variable {σ ε ε' α : Type}

/-- Leaves a notice. -/
def note (n : Notice) : Run σ ε Unit := modify fun s => { s with notices := s.notices ++ [n] }

/-- Issues a command. -/
def issue (r : Runner σ) (c : Command) (input : Option String) : Run σ RunError String := fun s =>
  let reply := r.run c input s.files s.state
  (reply.answer, { s with
    files := reply.files, state := reply.state,
    calls := s.calls ++ [⟨c, input⟩], notices := s.notices ++ reply.notices })

/-- A step with its failures seen as failures of another type. -/
def mapError (f : ε → ε') (m : Run σ ε α) : Run σ ε' α := fun s =>
  match m s with
  | (.ok a, s) => (.ok a, s)
  | (.error e, s) => (.error (f e), s)

/-- What an operation on the files answers. -/
def onFiles (f : FileTree → Except ε α) : Run σ ε α := fun s => (f s.files, s)

end Run

/-! ## Scripted answers -/

/-- An answer prepared in advance. -/
inductive Answer where
  | output (text : String)
  | failure (status stderr : String)
  | timeout (seconds : Nat)
  deriving Repr, DecidableEq

/-- What a prepared answer says about the command that it is given to. -/
def Answer.result (c : Command) : Answer → Except RunError String
  | .output text => .ok text
  | .failure status stderr => .error (.failed c.text status stderr)
  | .timeout seconds => .error (.timedOut c.text seconds)

/-- The runner that gives prepared answers in order, and no output when there are no more.  It
leaves the files alone. -/
def scripted : Runner (List Answer) where
  run c _ files
    | [] => ⟨.ok "", files, [], []⟩
    | a :: rest => ⟨a.result c, files, rest, []⟩

end ValidatorKeys
