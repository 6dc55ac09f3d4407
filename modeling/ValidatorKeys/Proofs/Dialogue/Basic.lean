import ValidatorKeys.Key.SeedLine
import ValidatorKeys.Provision.Session

/-!
# Dialogues with a runner

A dialogue is a run seen from outside: which command is asked next, given the answers so far, and
which records the key file is left with.  A command that fails ends it.  `Transcript d log y kept`
says that `d` may go as in `log`, with the outcome `y`, and that `kept` are the records last left in
the key file, if any.

    Transcript d log (.error e) kept → e is the last answer of log, all others are outputs
    Transcript d log y kept, Transcript d log' y' kept' and the same answers, the last of log apart
      → the calls of log are a prefix of those of log'
-/

namespace ValidatorKeys

/-! ## Dialogues and transcripts -/

/-- A call with what the runner answered. -/
structure Exchange where
  call : Call
  answer : Except RunError String

/-- Commands that are asked one after the other, each after the answers before it. -/
inductive Dialogue (α : Type) where
  | done (a : α)
  | ask (call : Call) (next : String → Dialogue α)
  | keep (records : List Record) (next : Dialogue α)

namespace Dialogue

variable {α β γ : Type}

def bind : Dialogue α → (α → Dialogue β) → Dialogue β
  | done a, f => f a
  | ask c next, f => ask c fun o => (next o).bind f
  | keep records next, f => keep records (next.bind f)

theorem bind_done (d : Dialogue α) : d.bind done = d := by
  induction d with
  | done => rfl
  | ask c next ih => simp only [bind, ih]
  | keep records next ih => rw [bind, ih]

theorem bind_assoc (d : Dialogue α) (f : α → Dialogue β) (g : β → Dialogue γ) :
    (d.bind f).bind g = d.bind fun a => (f a).bind g := by
  induction d with
  | done => rfl
  | ask c next ih => simp only [bind, ih]
  | keep records next ih => rw [bind, bind, bind, ih]

/-- Asks commands whose outputs do not matter. -/
def askAll : List Call → Dialogue Unit
  | [] => done ()
  | c :: rest => ask c fun _ => askAll rest

end Dialogue

/-- How a dialogue may go. -/
inductive Transcript {α : Type} :
    Dialogue α → List Exchange → Except RunError α → Option (List Record) → Prop where
  | done (a : α) : Transcript (.done a) [] (.ok a) none
  | failed (c : Call) (next : String → Dialogue α) (e : RunError) :
      Transcript (.ask c next) [⟨c, .error e⟩] (.error e) none
  | answered {c : Call} {next : String → Dialogue α} {o : String} {log : List Exchange}
      {y : Except RunError α} {kept : Option (List Record)} :
      Transcript (next o) log y kept → Transcript (.ask c next) (⟨c, .ok o⟩ :: log) y kept
  | keep {records : List Record} {d : Dialogue α} {log : List Exchange}
      {y : Except RunError α} {kept : Option (List Record)} :
      Transcript d log y kept → Transcript (.keep records d) log y (kept.or (some records))

namespace Transcript

variable {α β : Type} {d : Dialogue α} {log : List Exchange} {kept : Option (List Record)}

/-- A dialogue that failed goes no further. -/
theorem bind_error {e : RunError} (h : Transcript d log (.error e) kept) (f : α → Dialogue β) :
    Transcript (d.bind f) log (.error e) kept := by
  generalize hy : (Except.error e : Except RunError α) = y at h
  induction h with
  | done a => cases hy
  | failed c next e' =>
    cases hy
    exact failed c _ e
  | answered _ ih => exact answered (ih hy)
  | keep _ ih => exact keep (ih hy)

/-- A dialogue that came to its end goes on with the next one. -/
theorem bind_ok {a : α} (h : Transcript d log (.ok a) kept) {f : α → Dialogue β}
    {log' : List Exchange} {y : Except RunError β} {kept' : Option (List Record)}
    (h' : Transcript (f a) log' y kept') :
    Transcript (d.bind f) (log ++ log') y (kept'.or kept) := by
  generalize hy : (Except.ok a : Except RunError α) = x at h
  induction h with
  | done b =>
    cases hy
    simpa [Dialogue.bind] using h'
  | failed c next e => cases hy
  | answered _ ih => exact answered (ih hy)
  | @keep records d _ _ _ _ ih =>
    have : Transcript ((Dialogue.keep records d).bind f) _ y _ := keep (ih hy)
    rwa [Option.or_assoc] at this

/-- A transcript of two dialogues in a row ends in the first one, or is one of either. -/
theorem of_bind {f : α → Dialogue β} {y : Except RunError β}
    (h : Transcript (d.bind f) log y kept) :
    (∃ e, y = .error e ∧ Transcript d log (.error e) kept) ∨
    ∃ log₁ log₂ a kept₁ kept₂, log = log₁ ++ log₂ ∧ kept = kept₂.or kept₁ ∧
      Transcript d log₁ (.ok a) kept₁ ∧ Transcript (f a) log₂ y kept₂ := by
  induction d generalizing log kept with
  | done a => exact Or.inr ⟨[], log, a, none, kept, rfl, by simp, done a, h⟩
  | ask c next ih =>
    rw [Dialogue.bind] at h
    cases h with
    | failed _ _ e => exact Or.inl ⟨e, rfl, failed c next e⟩
    | answered h =>
      rcases ih _ h with ⟨e, rfl, hd⟩ | ⟨log₁, log₂, a, kept₁, kept₂, rfl, rfl, h₁, h₂⟩
      · exact Or.inl ⟨e, rfl, answered hd⟩
      · exact Or.inr ⟨_ :: log₁, log₂, a, kept₁, kept₂, rfl, rfl, answered h₁, h₂⟩
  | keep records next ih =>
    rw [Dialogue.bind] at h
    cases h with
    | keep h =>
      rcases ih h with ⟨e, rfl, hd⟩ | ⟨log₁, log₂, a, kept₁, kept₂, rfl, rfl, h₁, h₂⟩
      · exact Or.inl ⟨e, rfl, keep hd⟩
      · exact Or.inr ⟨log₁, log₂, a, _, kept₂, rfl, Option.or_assoc .., keep h₁, h₂⟩

/-- A transcript of two dialogues in a row that came to its end is one of either. -/
theorem of_bind_ok {f : α → Dialogue β} {b : β} (h : Transcript (d.bind f) log (.ok b) kept) :
    ∃ log₁ log₂ a kept₁ kept₂, log = log₁ ++ log₂ ∧ kept = kept₂.or kept₁ ∧
      Transcript d log₁ (.ok a) kept₁ ∧ Transcript (f a) log₂ (.ok b) kept₂ := by
  rcases h.of_bind with ⟨e, he, -⟩ | h
  · cases he
  · exact h

/-- Every answer of a dialogue that came to its end is an output. -/
theorem answers_of_ok {a : α} (h : Transcript d log (.ok a) kept) :
    ∀ x ∈ log, ∃ o, x.answer = .ok o := by
  generalize hy : (Except.ok a : Except RunError α) = y at h
  induction h with
  | done => simp
  | failed => cases hy
  | answered _ ih =>
    intro x hx
    rcases List.mem_cons.mp hx with rfl | hx
    · exact ⟨_, rfl⟩
    · exact ih hy x hx
  | keep _ ih => exact ih hy

/-- **Fail-stop.**  The failure of a dialogue is its last answer, and the only one. -/
theorem answers_of_error {e : RunError} (h : Transcript d log (.error e) kept) :
    ∃ before c, log = before ++ [⟨c, .error e⟩] ∧ ∀ x ∈ before, ∃ o, x.answer = .ok o := by
  generalize hy : (Except.error e : Except RunError α) = y at h
  induction h with
  | done => cases hy
  | failed c next e' =>
    cases hy
    exact ⟨[], c, rfl, by simp⟩
  | answered _ ih =>
    obtain ⟨before, c, rfl, hb⟩ := ih hy
    refine ⟨_ :: before, c, rfl, fun x hx => ?_⟩
    rcases List.mem_cons.mp hx with rfl | hx
    · exact ⟨_, rfl⟩
    · exact hb x hx
  | keep _ ih => exact ih hy

/-- Of commands whose outputs do not matter, the first ones are asked. -/
theorem calls_askAll_isPrefix {cs : List Call} {y : Except RunError Unit}
    (h : Transcript (Dialogue.askAll cs) log y kept) : log.map Exchange.call <+: cs := by
  induction cs generalizing log with
  | nil =>
    cases h with
    | done => exact List.nil_prefix
  | cons c cs ih =>
    cases h with
    | failed => exact ⟨cs, rfl⟩
    | answered h => exact (List.prefix_cons_inj c).mpr (ih h)

end Transcript

/-! ## Where the answers come from -/

/-- The runner gave these answers to these calls, one after the other, whatever became of the files
meanwhile. -/
inductive Asked {σ : Type} (r : Runner σ) : σ → List Exchange → σ → Prop where
  | nil (st : σ) : Asked r st [] st
  | cons (c : Call) (t : FileTree) {st st' : σ} {log : List Exchange} :
      Asked r (r.run c.command c.input t st).state log st' →
      Asked r st (⟨c, (r.run c.command c.input t st).answer⟩ :: log) st'

/-- Answers by position and command. -/
abbrev Script := Nat → Command → Except RunError String

/-- The runner answers from a script, of which `script` tells what is left in each state. -/
structure Runner.Plays {σ : Type} (r : Runner σ) (script : σ → Script) : Prop where
  answer : ∀ c i t st, (r.run c i t st).answer = script st 0 c
  rest : ∀ c i t st n, script (r.run c i t st).state n = script st (n + 1)

def Answer.script (answers : List Answer) : Script := fun n c =>
  match answers[n]? with
  | some a => a.result c
  | none => .ok ""

theorem scripted_plays : scripted.Plays Answer.script where
  answer c _ _ answers := by cases answers <;> rfl
  rest c _ _ answers n := by
    cases answers with
    | nil => rfl
    | cons a rest => rfl

/-- A script of outputs has no failures. -/
theorem Answer.script_ok {answers : List Answer} (h : ∀ a ∈ answers, ∃ text, a = .output text)
    (n : Nat) (c : Command) : ∃ o, Answer.script answers n c = .ok o := by
  unfold script
  cases ha : answers[n]? with
  | none => exact ⟨"", rfl⟩
  | some a =>
    obtain ⟨text, rfl⟩ := h a (List.mem_of_getElem? ha)
    exact ⟨text, rfl⟩

/-- Every command succeeds. -/
def Runner.AlwaysAnswers {σ : Type} (r : Runner σ) : Prop :=
  ∀ c i t st, ∃ o, (r.run c i t st).answer = .ok o

/-- The runner whose commands all succeed, print nothing and change nothing. -/
def Runner.silent : Runner Unit where
  run _ _ files _ := ⟨.ok "", files, (), []⟩

theorem Runner.silent_alwaysAnswers : Runner.silent.AlwaysAnswers := fun _ _ _ _ => ⟨"", rfl⟩

/-- The answers of a log are those of a script. -/
def Script.Gives (script : Script) (log : List Exchange) : Prop :=
  ∀ n x, log[n]? = some x → script n x.call.command = x.answer

theorem Script.gives_cons (script : Script) (x : Exchange) (log : List Exchange) :
    script.Gives (x :: log) ↔
      script 0 x.call.command = x.answer ∧ Script.Gives (fun n => script (n + 1)) log := by
  constructor
  · intro h
    exact ⟨h 0 x rfl, fun n y hy => h (n + 1) y hy⟩
  · rintro ⟨h₀, h⟩ n y hy
    cases n with
    | zero =>
      rw [List.getElem?_cons_zero, Option.some.injEq] at hy
      exact hy ▸ h₀
    | succ n => exact h n y hy

namespace Asked

variable {σ : Type} {r : Runner σ} {st st' : σ} {log : List Exchange}

theorem append {st'' : σ} {log' : List Exchange} (h : Asked r st log st')
    (h' : Asked r st' log' st'') : Asked r st (log ++ log') st'' := by
  induction h with
  | nil => exact h'
  | cons c t _ ih => exact cons c t (ih h')

theorem answers (h : Asked r st log st') (hr : r.AlwaysAnswers) :
    ∀ x ∈ log, ∃ o, x.answer = .ok o := by
  induction h with
  | nil => simp
  | cons c t _ ih =>
    intro x hx
    rcases List.mem_cons.mp hx with rfl | hx
    · exact hr _ _ _ _
    · exact ih x hx

theorem gives {script : σ → Script} (h : Asked r st log st') (hp : r.Plays script) :
    (script st).Gives log ∧ ∀ n, script st' n = script st (n + log.length) := by
  induction h with
  | nil => exact ⟨fun n x hx => by simp at hx, fun n => rfl⟩
  | @cons c t st st' log _ ih =>
    obtain ⟨ih₁, ih₂⟩ := ih
    refine ⟨(Script.gives_cons ..).mpr ⟨(hp.answer ..).symm, ?_⟩, fun n => ?_⟩
    · rwa [show script (r.run c.command c.input t st).state = fun n => script st (n + 1) from
        funext (hp.rest c.command c.input t st)] at ih₁
    · rw [ih₂, hp.rest, List.length_cons, Nat.add_assoc]

/-- From a script without failures come no failures. -/
theorem answers_of_script {script : σ → Script} (h : Asked r st log st') (hp : r.Plays script)
    (hs : ∀ n c, ∃ o, script st n c = .ok o) : ∀ x ∈ log, ∃ o, x.answer = .ok o := by
  intro x hx
  obtain ⟨n, hn⟩ := List.mem_iff_getElem?.mp hx
  obtain ⟨o, ho⟩ := hs n x.call.command
  exact ⟨o, by rw [← (h.gives hp).1 n x hn, ho]⟩

end Asked

/-- **Causality.**  The calls of a dialogue are settled by the answers before them. -/
theorem Transcript.calls_isPrefix {α : Type} {d : Dialogue α} {log log' : List Exchange}
    {y y' : Except RunError α} {kept kept' : Option (List Record)} {script : Script}
    (h : Transcript d log y kept) (h' : Transcript d log' y' kept')
    (hlog : script.Gives log.dropLast) (hlog' : script.Gives log') :
    log.map Exchange.call <+: log'.map Exchange.call := by
  induction h generalizing log' kept' script with
  | done => simp
  | failed c next e =>
    cases h' with
    | failed => simp
    | answered => simp
  | @answered c next o log y kept h ih =>
    cases log with
    | nil =>
      cases h' with
      | failed => simp
      | answered => simp
    | cons x log =>
      -- the first answer is not the last one, so both dialogues go on in the same way
      rw [List.dropLast_cons_of_ne_nil (List.cons_ne_nil x log), Script.gives_cons] at hlog
      obtain ⟨hfirst, hlog⟩ := hlog
      cases h' with
      | failed =>
        obtain ⟨hfirst', -⟩ := (Script.gives_cons ..).mp hlog'
        rw [hfirst] at hfirst'
        cases hfirst'
      | answered h' =>
        obtain ⟨hfirst', hrest⟩ := (Script.gives_cons ..).mp hlog'
        rw [hfirst] at hfirst'
        cases hfirst'
        exact (List.prefix_cons_inj c).mpr (ih h' hlog hrest)
  | keep _ ih =>
    cases h' with
    | keep h' => exact ih h' hlog hlog'

/-- **The answers settle a dialogue**: what is asked, how it ends and what is kept. -/
theorem Transcript.unique {α : Type} {d : Dialogue α} {log log' : List Exchange}
    {y y' : Except RunError α} {kept kept' : Option (List Record)} {script : Script}
    (h : Transcript d log y kept) (h' : Transcript d log' y' kept')
    (hlog : script.Gives log) (hlog' : script.Gives log') :
    log = log' ∧ y = y' ∧ kept = kept' := by
  induction h generalizing log' kept' script with
  | done =>
    cases h' with
    | done => exact ⟨rfl, rfl, rfl⟩
  | failed c next e =>
    have hfirst := ((Script.gives_cons ..).mp hlog).1
    cases h' with
    | failed _ _ e' =>
      have hfirst' := ((Script.gives_cons ..).mp hlog').1
      rw [hfirst] at hfirst'
      cases hfirst'
      exact ⟨rfl, rfl, rfl⟩
    | answered =>
      have hfirst' := ((Script.gives_cons ..).mp hlog').1
      rw [hfirst] at hfirst'
      cases hfirst'
  | answered _ ih =>
    obtain ⟨hfirst, hrest⟩ := (Script.gives_cons ..).mp hlog
    cases h' with
    | failed =>
      have hfirst' := ((Script.gives_cons ..).mp hlog').1
      rw [hfirst] at hfirst'
      cases hfirst'
    | answered h' =>
      obtain ⟨hfirst', hrest'⟩ := (Script.gives_cons ..).mp hlog'
      rw [hfirst] at hfirst'
      cases hfirst'
      obtain ⟨rfl, rfl, rfl⟩ := ih h' hrest hrest'
      exact ⟨rfl, rfl, rfl⟩
  | keep _ ih =>
    cases h' with
    | keep h' =>
      obtain ⟨rfl, rfl, rfl⟩ := ih h' hlog hlog'
      exact ⟨rfl, rfl, rfl⟩

end ValidatorKeys
