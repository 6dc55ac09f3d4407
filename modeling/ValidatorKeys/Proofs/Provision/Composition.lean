import ValidatorKeys.Proofs.Provision.Independence
import ValidatorKeys.Proofs.SideBySide.Passes

/-!
# Rounds compose

A run may be cut between any two of its rounds.  The second part builds nothing and counts its
rounds from one again; it looks for its tools once more, and finds them, as all of them were there
before the first part and none was taken away.

    provision with m + n rounds = provision with m rounds, then provision with n rounds
    rounds of the report = rounds of the first part ++ rounds of the second part, later by m
-/

namespace ValidatorKeys

variable {σ : Type}

/-! ## Definitions -/

namespace Provisioner

/-- The same run with another number of rounds. -/
def withRounds (p : Provisioner) (n : Nat) : Provisioner :=
  { p with config := { p.config with keys := { p.config.keys with rounds := n } } }

def FindsTools (p : Provisioner) (t : FileTree) : Prop :=
  ∀ name ∈ p.config.tools.required, p.environment.hasProgram t name = true

/-- No command touches the key file, puts anything else in its place, or takes a tool away. -/
structure Undisturbed (p : Provisioner) (r : Runner σ) : Prop where
  spares : r.Spares p.environment.directory p.keyFile
  clear : ∀ c i t st, t.Clear p.environment.directory p.keyFile →
    (r.run c i t st).files.Clear p.environment.directory p.keyFile
  tools : ∀ c i t st, p.FindsTools t → p.FindsTools (r.run c i t st).files

theorem undisturbed_scripted (p : Provisioner) : p.Undisturbed scripted where
  spares := scripted_spares _ _
  clear c i t st h := by rwa [scripted_files]
  tools c i t st h := by rwa [scripted_files]

end Provisioner

/-- The report of a run with `m` rounds, with the rounds of a later run behind them. -/
def Report.followedBy (a : Report) (m : Nat) (b : Report) : Report :=
  { a with rounds := a.rounds ++ b.rounds.map (RoundReport.later m) }

/-- A run with `m` rounds and, if it succeeds, a run with `n` rounds on what it left, without a
build. -/
def Provisioner.provisionTwice (p : Provisioner) (r : Runner σ) (password : Password)
    (m n : Nat) : Run σ ProvisionError Report := do
  let a ← (p.withRounds m).provision r password
  let b ← { p.withRounds n with skipBuild := true }.provision r password
  pure (a.followedBy m b)

/-! ## Lemmas -/

namespace Provisioner

variable {p : Provisioner} {r : Runner σ}

theorem runRounds_add (p : Provisioner) (r : Runner σ) (password : Password) (first m n : Nat) :
    p.runRounds r password first (m + n) = (do
      let a ← p.runRounds r password first m
      let b ← p.runRounds r password (first + m) n
      pure (a ++ b)) := by
  induction m generalizing first with
  | zero => simp [runRounds]
  | succ m ih => simp [Nat.succ_add, runRounds, ih, Nat.add_assoc]

theorem complete_add (p : Provisioner) (r : Runner σ) (password : Password) (m n : Nat) :
    (p.withRounds (m + n)).complete r password = (do
      let a ← (p.withRounds (m + n)).runRounds r password 1 m
      let b ← (p.withRounds (m + n)).runRounds r password (1 + m) n
      pure ⟨!p.skipBuild, a ++ b⟩) := by
  rw [complete, show (p.withRounds (m + n)).config.keys.rounds = m + n from rfl, runRounds_add]
  simp only [bind_assoc, pure_bind]
  rfl

/-- A run that came past its tools had found those configured. -/
theorem findsTools_of_missingTool? {t : FileTree} (h : p.missingTool? t = none) :
    p.FindsTools t := by
  intro name hname
  have hmem : name ∈ p.requiredTools := by
    unfold requiredTools
    cases p.config.node.buildCommand with
    | nil => exact hname
    | cons program args =>
      simp only
      split
      · exact hname
      · exact List.mem_append_left _ hname
  simpa using List.find?_eq_none.mp h name hmem

/-- A run that builds nothing asks for the configured tools only. -/
theorem prepare_of_skipBuild (hskip : p.skipBuild = true) {s : Session σ}
    (htools : p.FindsTools s.files) :
    ∃ notices, p.prepare r s = (.ok (), { s with notices := notices }) := by
  have hrequired : p.requiredTools = p.config.tools.required := by
    unfold requiredTools
    rw [hskip]
    cases p.config.node.buildCommand <;> rfl
  have hmissing : p.missingTool? s.files = none := by
    unfold missingTool?
    rw [hrequired, List.find?_eq_none]
    intro name hname
    simp [htools name hname]
  obtain ⟨notices, hcheck⟩ := p.checkTools_eq s
  rw [hmissing] at hcheck
  refine ⟨notices, ?_⟩
  rw [prepare, Run.bind_ok hcheck, hskip]
  rfl

/-- Where tools are not taken away, passes side by side keep finding them. -/
theorem Undisturbed.bond (h : p.Undisturbed r) (payload : String) :
    Session.Bond r p.node payload payload (fun _ _ => True) (Session.Agrees p.FindsTools) :=
  Session.Agrees.bond (fun _ _ hkeeps ht name hname => hkeeps _ _ (ht name hname)) h.tools _ _

/-- **The rounds of a run, cut in two.**  The second part begins with a search for tools that
changes nothing but the notices. -/
theorem alike_complete_cut (h : p.Undisturbed r) (password : Password) (m n : Nat) :
    Run.Alike (Session.Agrees p.FindsTools) Eq ((p.withRounds (m + n)).complete r password)
      (do
        let a ← (p.withRounds m).complete r password
        let b ← { p.withRounds n with skipBuild := true }.provision r password
        pure (a.followedBy m b)) := by
  have hB := h.bond password.payload
  have hfirst : Run.Alike (Session.Agrees p.FindsTools)
      (fun a a' => a = a'.map (RoundReport.later 0))
      ((p.withRounds (m + n)).runRounds r password 1 m)
      ((p.withRounds m).runRounds r password 1 m) :=
    alike_runRounds (p.withRounds (m + n)) (p.withRounds m) hB (alike_generate hB)
      (alike_insert hB) (fun _ => trivial) 1 m
  have hsecond : Run.Alike (Session.Agrees p.FindsTools)
      (fun b b' => b = b'.map (RoundReport.later m))
      ((p.withRounds (m + n)).runRounds r password (1 + m) n)
      ({ p.withRounds n with skipBuild := true }.runRounds r password 1 n) :=
    alike_runRounds (p.withRounds (m + n)) { p.withRounds n with skipBuild := true } hB
      (alike_generate hB) (alike_insert hB) (fun _ => trivial) 1 n
  rw [complete_add, complete, bind_assoc]
  refine hfirst.bind fun a a' ha => ?_
  rw [RoundReport.later_zero, List.map_id] at ha
  subst ha
  rw [pure_bind, provision_eq_prepare, bind_assoc]
  refine Run.Alike.bind_right (a := ()) ?_ ?_
  · intro s s' hs
    obtain ⟨notices, hprepare⟩ := prepare_of_skipBuild
      (p := { p.withRounds n with skipBuild := true }) (r := r) rfl (hs.files ▸ hs.holds)
    exact ⟨_, hprepare, hs.files, hs.state, hs.calls, hs.holds⟩
  · rw [complete, bind_assoc]
    refine hsecond.bind fun b b' hb => ?_
    rw [pure_bind, hb]
    exact Run.alike_pure rfl

/-- A run and its two parts end alike and leave the same. -/
theorem provision_cut (h : p.Undisturbed r) (password : Password) (m n : Nat) (s : Session σ) :
    ∃ x s₁ s₂, (p.withRounds (m + n)).provision r password s = (x, s₁) ∧
      p.provisionTwice r password m n s = (x, s₂) ∧
      s₁.calls = s₂.calls ∧ s₁.files = s₂.files ∧ s₁.state = s₂.state := by
  rw [provisionTwice, provision_eq_prepare, provision_eq_prepare, bind_assoc]
  -- the number of rounds is not looked at before the first one
  rcases hprepare : (p.withRounds m).prepare r s with ⟨x, s₀⟩
  have hwhole : (p.withRounds (m + n)).prepare r s = (x, s₀) := hprepare
  cases x with
  | error e =>
    rw [Run.bind_error hprepare, Run.bind_error hwhole]
    exact ⟨.error e, s₀, s₀, rfl, rfl, rfl, rfl, rfl⟩
  | ok u =>
    rw [Run.bind_ok hprepare, Run.bind_ok hwhole]
    obtain ⟨hmissing, hkeeps, -⟩ := prepare_ok (T := p.FindsTools) h.tools hprepare
    have htools : p.FindsTools s₀.files := hkeeps (findsTools_of_missingTool? hmissing)
    obtain ⟨x, s₁, s₂, hrun, hparts, hs⟩ :=
      (alike_complete_cut h password m n).ends (s := s₀) ⟨rfl, rfl, rfl, htools⟩
    exact ⟨x, s₁, s₂, hrun, hparts, hs.calls, hs.files, hs.state⟩

end Provisioner

/-! ## Top theorem -/

/-- **Rounds compose and do not depend on one another**, when nothing else disturbs the run.

A run with `m + n` rounds goes as one with `m` rounds and one with `n` rounds on what it left.  What
a run does is settled by the answers, whatever the key file held before.  After a run with rounds
that came to its end, the file holds the records of the last round. -/
theorem provision_composes {r : Runner σ} {p : Provisioner} (h : p.Undisturbed r)
    (password : Password) :
    (∀ m n s, ∃ x s₁ s₂, (p.withRounds (m + n)).provision r password s = (x, s₁) ∧
      p.provisionTwice r password m n s = (x, s₂) ∧
      s₁.calls = s₂.calls ∧ s₁.files = s₂.files ∧ s₁.state = s₂.state) ∧
    (∀ script s s' l l', p.Ready r script s l → p.Ready r script s' l' →
      script s.state = script s'.state → p.missingTool? s.files = p.missingTool? s'.files →
      p.RunsAlike r password s s' l l') ∧
    ∀ s report s', s.files.Clear p.environment.directory p.keyFile →
      p.provision r password s = (.ok report, s') →
      ∃ log outputs, Asked r s.state log s'.state ∧
        s'.calls = s.calls ++ log.map Exchange.call ∧
        p.Completed password.payload log outputs report ∧
        (0 < p.config.keys.rounds →
          ∃ last, outputs.getLast? = some last ∧ p.KeepsOnly last s'.files) := by
  refine ⟨Provisioner.provision_cut h password, fun script s s' l l' hs hs' hscript htools =>
    Provisioner.runsAlike_of_script hs hs' hscript htools password, fun s report s' hs hrun => ?_⟩
  obtain ⟨log, outputs, hasked, hcalls, hcompleted, hlast⟩ :=
    Provisioner.provision_ok h.spares h.clear hrun hs
  refine ⟨log, outputs, hasked, hcalls, hcompleted, fun hrounds => ?_⟩
  have hne : outputs ≠ [] := by
    rintro rfl
    have hlen := hcompleted.length_outputs
    rw [List.length_nil] at hlen
    omega
  exact ⟨_, List.getLast?_eq_some_getLast hne, hlast _ (List.getLast?_eq_some_getLast hne)⟩

/-- Two rounds, over a key file that holds a key already and over none. -/
theorem provision_composes_two_rounds :
    let p : Provisioner := {
      config := {
        node := { binary := "node" }, keys := { rounds := 2 }, tools := { required := [] } }
      environment := ⟨"/", []⟩
      skipBuild := true }
    let password : Password := ⟨"pw", by decide⟩
    let answers : List Answer := [.output "Secret seed: 0xa", .output "none", .output "seed 0xb"]
    let s : Session (List Answer) := { files := {}, state := answers }
    let s' : Session (List Answer) := {
      files := ⟨[(["keys.txt"], .file "ecdsa Secret seed: 0xc\n".toUTF8 0o644)]⟩
      state := answers }
    p.Undisturbed scripted ∧
    (∃ x s₁ s₂, p.provision scripted password s' = (x, s₁) ∧
      p.provisionTwice scripted password 1 1 s' = (x, s₂) ∧
      s₁.calls = s₂.calls ∧ s₁.files = s₂.files ∧ s₁.state = s₂.state) ∧
    p.RunsAlike scripted password s s' ["keys.txt"] ["keys.txt"] ∧
    ∃ report s₁ log outputs last, p.provision scripted password s' = (.ok report, s₁) ∧
      p.Completed password.payload log outputs report ∧ outputs.getLast? = some last ∧
      p.KeepsOnly last s₁.files := by
  intro p password answers s s'
  have hpath : p.keyFile = "keys.txt" := by decide +kernel
  have hready : p.Ready scripted Answer.script s ["keys.txt"] :=
    Provisioner.ready_scripted (hpath ▸ KeyFile.hasPlace_empty)
  have hready' : p.Ready scripted Answer.script s' ["keys.txt"] :=
    Provisioner.ready_scripted (hpath ▸ KeyFile.hasPlace_keyFile _)
  have hanswers : ∀ log st, Asked scripted s'.state log st →
      ∀ x ∈ log, ∃ o, x.answer = .ok o := fun log st h =>
    h.answers_of_script scripted_plays (Answer.script_ok (by simp [s', answers]))
  obtain ⟨report, s₁, _, _, _, hrun, -⟩ :=
    (Provisioner.provision_conducts (scripted_spares _ _) hready'.place.no_slash
      hready'.place.regular (Or.inl rfl) password s' rfl
      ⟨hready'.place.locate, rfl⟩).ok_of_answers hanswers
  have hundisturbed := p.undisturbed_scripted
  have hmain := provision_composes hundisturbed password
  obtain ⟨log, outputs, -, -, hcompleted, hlast⟩ := hmain.2.2 s' report s₁ hready'.place.clear hrun
  obtain ⟨last, hget, hkeeps⟩ := hlast (by decide)
  exact ⟨hundisturbed, hmain.1 1 1 s', hmain.2.1 _ _ _ _ _ hready hready' rfl rfl, report, s₁, log,
    outputs, last, hrun, hcompleted, hget, hkeeps⟩

end ValidatorKeys
