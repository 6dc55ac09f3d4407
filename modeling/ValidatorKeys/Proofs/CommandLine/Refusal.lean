import ValidatorKeys.CommandLine.Outcome
import ValidatorKeys.Proofs.Provision.Preparation

/-!
# Nothing is done before everything is checked

Whole runs, generation and insertion load the settings, accept them, look for what they need and
resolve the password before they issue a command or touch a file.  Up to there a task only tells;
if one of these steps fails, in whatever order the task takes them, the session is left with its
files, its calls and its answers.

    a step that fails  →  perform = (failure of such a step, the session with more notices)
-/

namespace ValidatorKeys

/-! ## Definitions -/

/-- Over these files the run leaves notices and nothing else, and ends like this. -/
def Run.OnlyTells {σ ε α : Type} (m : Run σ ε α) (files : FileTree) (x : Except ε α) : Prop :=
  ∀ s, s.files = files → ∃ notices, m s = (x, { s with notices := notices })

/-- Over these files the run only tells, and ends with a result of which `Q` holds or with a failure
of which `P` holds. -/
def Run.Checks {σ ε α : Type} (m : Run σ ε α) (files : FileTree) (P : ε → Prop) (Q : α → Prop) :
    Prop :=
  (∃ a, Q a ∧ OnlyTells m files (.ok a)) ∨ ∃ e, P e ∧ OnlyTells m files (.error e)

def Task.runOptions? : Task → Option RunOptions
  | .provision o => some o.run
  | .generate o => some o
  | .insert o => some o
  | _ => none

def Tool.settings {σ : Type} (t : Tool σ) (files : FileTree) (o : RunOptions) :
    Except Config.Error (Config × List Notice) :=
  Config.load files t.environment o.config (some t.environment.directory)

/-- An insertion needs a key file. -/
def Tool.needKeyFile {σ : Type} (t : Tool σ) (c : Config) : Run σ Failure Unit := do
  let path := c.keyFilePath t.environment.directory
  if !(← get).files.exists? t.environment.directory path then throw (.noKeyFile path)

/-- Over these files, a step that a task takes before its first command fails like this. -/
inductive Tool.Refuses {σ : Type} (t : Tool σ) (files : FileTree) (task : Task) : Failure → Prop where
  | loading {o : RunOptions} {e : Config.Error} :
      task.runOptions? = some o → t.settings files o = .error e → Refuses t files task (.loading e)
  | settings {o : RunOptions} {c : Config} {notices : List Notice} {e : Config.Error} :
      task.runOptions? = some o → t.settings files o = .ok (c, notices) →
      (task.apply c).validate = .error e → Refuses t files task (.settings e)
  | tools {o : ProvisionOptions} {c : Config} {notices : List Notice} {name : String} :
      task = .provision o → t.settings files o.run = .ok (c, notices) →
      Provisioner.missingTool? ⟨task.apply c, t.environment, o.skipBuild⟩ files = some name →
      Refuses t files task (.tools (.pass (.run (.missingTool name))))
  | keyFile {o : RunOptions} {c : Config} {notices : List Notice} :
      task = .insert o → t.settings files o = .ok (c, notices) →
      files.exists? t.environment.directory
        ((task.apply c).keyFilePath t.environment.directory) = false →
      Refuses t files task (.noKeyFile ((task.apply c).keyFilePath t.environment.directory))
  | password {o : RunOptions} {e : PasswordError} :
      task.runOptions? = some o →
      Password.resolve files t.environment o.passwordFile = .error e →
      Refuses t files task (.password e)

/-! ## Runs that only tell -/

namespace Run

variable {σ ε α β : Type} {files : FileTree}

theorem onlyTells_pure (a : α) : OnlyTells (pure a : Run σ ε α) files (.ok a) :=
  fun s _ => ⟨s.notices, rfl⟩

theorem onlyTells_throw (e : ε) : OnlyTells (throw e : Run σ ε α) files (.error e) :=
  fun s _ => ⟨s.notices, rfl⟩

theorem OnlyTells.bind {m : Run σ ε α} {f : α → Run σ ε β} {a : α} {y : Except ε β}
    (h : OnlyTells m files (.ok a)) (hf : OnlyTells (f a) files y) :
    OnlyTells (m >>= f) files y := by
  intro s hs
  obtain ⟨notices, hm⟩ := h s hs
  obtain ⟨told, hfa⟩ := hf { s with notices := notices } hs
  exact ⟨told, (bind_ok hm).trans hfa⟩

theorem OnlyTells.bind_error {m : Run σ ε α} {e : ε} (h : OnlyTells m files (.error e))
    (f : α → Run σ ε β) : OnlyTells (m >>= f) files (.error e) := by
  intro s hs
  obtain ⟨notices, hm⟩ := h s hs
  exact ⟨notices, Run.bind_error hm f⟩

/-- A check that fails is the end; one that succeeds leaves it to what follows. -/
theorem Checks.bind {m : Run σ ε α} {P : ε → Prop} {Q : α → Prop} {f : α → Run σ ε β}
    (h : Checks m files P Q) (hf : ∀ a, Q a → ∃ e, P e ∧ OnlyTells (f a) files (.error e)) :
    ∃ e, P e ∧ OnlyTells (m >>= f) files (.error e) := by
  rcases h with ⟨a, hQ, hm⟩ | ⟨e, hP, hm⟩
  · obtain ⟨e, hP, hfa⟩ := hf a hQ
    exact ⟨e, hP, hm.bind hfa⟩
  · exact ⟨e, hP, hm.bind_error f⟩

/-- A run that looks at its session first. -/
theorem onlyTells_get_bind {f : Session σ → Run σ ε α} {x : Except ε α}
    (h : ∀ s, s.files = files → OnlyTells (f s) files x) : OnlyTells (get >>= f) files x :=
  fun s hs => h s hs s hs

theorem onlyTells_forM_note (notices : List Notice) :
    OnlyTells (notices.forM fun n => note n : Run σ ε Unit) files (.ok ()) := by
  induction notices with
  | nil => exact onlyTells_pure ()
  | cons n rest ih => exact OnlyTells.bind (fun s _ => ⟨_, rfl⟩) ih

end Run

namespace Tool

variable {σ : Type} {t : Tool σ} {files : FileTree} {task : Task} {o : RunOptions} {c : Config}

/-! ## Steps before the first command -/

theorem onlyTells_load {notices : List Notice} (h : t.settings files o = .ok (c, notices)) :
    Run.OnlyTells (t.load o.config) files (.ok c) := by
  refine Run.onlyTells_get_bind ?_
  rintro s rfl
  unfold settings at h
  simp only [h]
  exact (Run.onlyTells_forM_note notices).bind (Run.onlyTells_pure c)

theorem onlyTells_accept {warnings : List Notice} (h : c.validate = .ok warnings) :
    Run.OnlyTells (accept c : Run σ Failure Unit) files (.ok ()) := by
  unfold accept
  rw [h]
  exact Run.onlyTells_forM_note warnings

theorem onlyTells_needKeyFile (h : files.exists? t.environment.directory
    (c.keyFilePath t.environment.directory) = true) :
    Run.OnlyTells (t.needKeyFile c) files (.ok ()) := by
  refine Run.onlyTells_get_bind ?_
  rintro s rfl
  rw [h]
  exact Run.onlyTells_pure ()

theorem onlyTells_password {file : Option String} {p : Password}
    (h : Password.resolve files t.environment file = .ok p) :
    Run.OnlyTells (t.password file) files (.ok p) := by
  refine Run.onlyTells_get_bind ?_
  rintro s rfl
  rw [h]
  exact Run.onlyTells_pure p

theorem load_checks (h : task.runOptions? = some o) :
    Run.Checks (t.load o.config) files (t.Refuses files task)
      fun c => ∃ notices, t.settings files o = .ok (c, notices) := by
  cases hsettings : t.settings files o with
  | ok x => exact .inl ⟨x.1, ⟨x.2, rfl⟩, onlyTells_load hsettings⟩
  | error e =>
    refine .inr ⟨_, .loading h hsettings, Run.onlyTells_get_bind ?_⟩
    rintro s rfl
    unfold settings at hsettings
    simp only [hsettings]
    exact Run.onlyTells_throw _

section

variable {notices : List Notice} (hsettings : t.settings files o = .ok (c, notices))

include hsettings

theorem accept_checks (h : task.runOptions? = some o) :
    Run.Checks (accept (task.apply c) : Run σ Failure Unit) files (t.Refuses files task)
      fun _ => ∃ warnings, (task.apply c).validate = .ok warnings := by
  cases hvalid : (task.apply c).validate with
  | ok warnings => exact .inl ⟨(), ⟨warnings, rfl⟩, onlyTells_accept hvalid⟩
  | error e =>
    refine .inr ⟨_, .settings h hsettings hvalid, ?_⟩
    unfold accept
    rw [hvalid]
    exact Run.onlyTells_throw _

theorem needKeyFile_checks :
    Run.Checks (t.needKeyFile (o.apply c)) files (t.Refuses files (.insert o))
      fun _ => files.exists? t.environment.directory
        ((o.apply c).keyFilePath t.environment.directory) = true := by
  cases hthere : files.exists? t.environment.directory
      ((o.apply c).keyFilePath t.environment.directory) with
  | true => exact .inl ⟨(), rfl, onlyTells_needKeyFile hthere⟩
  | false =>
    refine .inr ⟨_, .keyFile rfl hsettings hthere, Run.onlyTells_get_bind ?_⟩
    rintro s rfl
    rw [hthere]
    exact Run.onlyTells_throw _

end

theorem checkTools_checks {o : ProvisionOptions} {notices : List Notice}
    (hsettings : t.settings files o.run = .ok (c, notices)) :
    Run.Checks (Run.mapError Failure.tools
        (Provisioner.checkTools ⟨o.apply c, t.environment, o.skipBuild⟩) : Run σ Failure Unit)
      files (t.Refuses files (.provision o))
      fun _ => Provisioner.missingTool? ⟨o.apply c, t.environment, o.skipBuild⟩ files = none := by
  have happly (s : Session σ) := Provisioner.checkTools_eq ⟨o.apply c, t.environment, o.skipBuild⟩ s
  cases htools : Provisioner.missingTool? ⟨o.apply c, t.environment, o.skipBuild⟩ files with
  | none =>
    refine .inl ⟨(), rfl, ?_⟩
    rintro s rfl
    obtain ⟨notices, hcheck⟩ := happly s
    exact ⟨notices, by rw [Run.mapError, hcheck, htools]⟩
  | some name =>
    refine .inr ⟨_, .tools rfl hsettings htools, ?_⟩
    rintro s rfl
    obtain ⟨notices, hcheck⟩ := happly s
    exact ⟨notices, by rw [Run.mapError, hcheck, htools]⟩

theorem password_checks (h : task.runOptions? = some o) :
    Run.Checks (t.password o.passwordFile) files (t.Refuses files task)
      fun p => Password.resolve files t.environment o.passwordFile = .ok p := by
  cases hpassword : Password.resolve files t.environment o.passwordFile with
  | ok p => exact .inl ⟨p, rfl, onlyTells_password hpassword⟩
  | error e =>
    refine .inr ⟨_, .password h hpassword, Run.onlyTells_get_bind ?_⟩
    rintro s rfl
    rw [hpassword]
    exact Run.onlyTells_throw _

/-! ## Tasks -/

/-- An insertion with the search for its key file as a step of its own. -/
theorem insert_eq (t : Tool σ) (o : RunOptions) :
    t.insert o = (do
      let c ← t.load o.config
      t.needKeyFile (o.apply c)
      accept (o.apply c)
      let password ← t.password o.passwordFile
      let i ← Run.mapError .insertion
        (Provisioner.insert ⟨o.apply c, t.environment, false⟩ (t.runner (o.apply c)) password)
      pure ⟨false, [⟨1, none, some i⟩]⟩) := by
  unfold insert needKeyFile
  refine bind_congr fun c => ?_
  rw [bind_assoc]
  refine bind_congr fun s => ?_
  cases hthere : s.files.exists? t.environment.directory
      ((o.apply c).keyFilePath t.environment.directory) <;>
    simp only [Provisioner.keyFile, hthere] <;> rfl

/-- **An insertion that nothing refuses comes to its pass**, and has only told so far. -/
theorem insert_comes_to_pass {notices warnings : List Notice} {password : Password}
    {s : Session σ} (hsettings : t.settings s.files o = .ok (c, notices))
    (hthere : s.files.exists? t.environment.directory
      ((o.apply c).keyFilePath t.environment.directory) = true)
    (hvalid : (o.apply c).validate = .ok warnings)
    (hpassword : Password.resolve s.files t.environment o.passwordFile = .ok password) :
    ∃ told, t.insert o s = (do
      let i ← Run.mapError .insertion
        (Provisioner.insert ⟨o.apply c, t.environment, false⟩ (t.runner (o.apply c)) password)
      pure ⟨false, [⟨1, none, some i⟩]⟩ : Run σ Failure Report) { s with notices := told } := by
  obtain ⟨n₁, hload⟩ := onlyTells_load hsettings s rfl
  obtain ⟨n₂, hkeyFile⟩ := onlyTells_needKeyFile hthere { s with notices := n₁ } rfl
  obtain ⟨n₃, haccept⟩ := onlyTells_accept hvalid { s with notices := n₂ } rfl
  obtain ⟨n₄, hresolve⟩ := onlyTells_password hpassword { s with notices := n₃ } rfl
  refine ⟨n₄, ?_⟩
  rw [insert_eq, Run.bind_ok hload, Run.bind_ok hkeyFile, Run.bind_ok haccept, Run.bind_ok hresolve]

theorem provision_refuses {o : ProvisionOptions} {f₀ : Failure}
    (h : t.Refuses files (.provision o) f₀) :
    ∃ f, t.Refuses files (.provision o) f ∧ Run.OnlyTells (t.provision o) files (.error f) := by
  unfold provision
  refine (load_checks rfl).bind fun c ⟨notices, hc⟩ => ?_
  refine (accept_checks hc rfl).bind fun _ ⟨warnings, hvalid⟩ => ?_
  refine (checkTools_checks hc).bind fun _ htools => ?_
  refine (password_checks rfl).bind fun password hpassword => ?_
  -- every step would have succeeded, but one of them refuses
  cases h <;> simp_all [Task.runOptions?, Task.apply]

theorem generate_refuses {f₀ : Failure} (h : t.Refuses files (.generate o) f₀) :
    ∃ f, t.Refuses files (.generate o) f ∧ Run.OnlyTells (t.generate o) files (.error f) := by
  unfold generate
  refine (load_checks rfl).bind fun c ⟨notices, hc⟩ => ?_
  refine (accept_checks hc rfl).bind fun _ ⟨warnings, hvalid⟩ => ?_
  refine (password_checks rfl).bind fun password hpassword => ?_
  cases h <;> simp_all [Task.runOptions?, Task.apply]

theorem insert_refuses {f₀ : Failure} (h : t.Refuses files (.insert o) f₀) :
    ∃ f, t.Refuses files (.insert o) f ∧ Run.OnlyTells (t.insert o) files (.error f) := by
  rw [insert_eq]
  refine (load_checks rfl).bind fun c ⟨notices, hc⟩ => ?_
  refine (needKeyFile_checks hc).bind fun _ hthere => ?_
  refine (accept_checks hc rfl).bind fun _ ⟨warnings, hvalid⟩ => ?_
  refine (password_checks rfl).bind fun password hpassword => ?_
  cases h <;> simp_all [Task.runOptions?, Task.apply]

end Tool

/-! ## Top theorem -/

/-- **A task that refuses does nothing.**  If a step before the first command fails, the invocation
fails with the failure of such a step, no command has been issued, and every file is as it was. -/
theorem perform_refused {σ : Type} {t : Tool σ} {i : Invocation} {s : Session σ} {f₀ : Failure}
    (h : t.Refuses s.files i.task f₀) :
    ∃ f s', t.Refuses s.files i.task f ∧ t.perform i s = (.ofFailure f, s') ∧
      (Outcome.ofFailure f).exitCode = 1 ∧
      s'.calls = s.calls ∧ s'.files = s.files ∧ s'.state = s.state := by
  have htask : ∃ f, t.Refuses s.files i.task f ∧ Run.OnlyTells (t.task i) s.files (.error f) := by
    unfold Tool.task Tool.reporting
    cases htask : i.task with
    | provision o =>
      rw [htask] at h
      obtain ⟨f, hf, htells⟩ := Tool.provision_refuses h
      exact ⟨f, hf, htells.bind_error _⟩
    | generate o =>
      rw [htask] at h
      obtain ⟨f, hf, htells⟩ := Tool.generate_refuses h
      exact ⟨f, hf, htells.bind_error _⟩
    | insert o =>
      rw [htask] at h
      obtain ⟨f, hf, htells⟩ := Tool.insert_refuses h
      exact ⟨f, hf, htells.bind_error _⟩
    | _ =>
      rw [htask] at h
      cases h <;> simp_all [Task.runOptions?]
  obtain ⟨f, hf, htells⟩ := htask
  obtain ⟨notices, hrun⟩ := htells s rfl
  refine ⟨f, { s with notices := notices }, hf, ?_, rfl, rfl, rfl, rfl⟩
  unfold Tool.perform
  rw [show (t.task i).run s = t.task i s from rfl, hrun]

/-- A generation without a password, beside a key file that it would have emptied. -/
theorem perform_refused_password :
    let t : Tool (List Answer) := ⟨⟨"/", []⟩, "x86_64-unknown-linux-gnu", fun _ => scripted⟩
    let s : Session (List Answer) := {
      files := ⟨[(["keys.txt"], .file "ecdsa Secret seed: 0xc\n".toUTF8 0o600)]⟩
      state := [.output "Secret seed: 0xa"] }
    let i : Invocation := { quiet := true, task := .generate { keyFile := some "keys.txt" } }
    Invocation.ofArgs ["-q", "generate", "--key-file", "keys.txt"] = .ok i ∧
    t.Refuses s.files i.task (.password .unavailable) ∧
    ∃ f s', t.perform i s = (.ofFailure f, s') ∧ (Outcome.ofFailure f).exitCode = 1 ∧
      s'.calls = [] ∧ s'.files = s.files := by
  intro t s i
  have hargs : Invocation.ofArgs ["-q", "generate", "--key-file", "keys.txt"] = .ok i := by rfl
  have hrefuses : t.Refuses s.files i.task (.password .unavailable) := .password rfl rfl
  obtain ⟨f, s', -, hrun, hcode, hcalls, hfiles, -⟩ := perform_refused hrefuses
  exact ⟨hargs, hrefuses, f, s', hrun, hcode, hcalls, hfiles⟩

end ValidatorKeys
