import ValidatorKeys.Proofs.Dialogue.Conduct
import ValidatorKeys.Provision.Provisioner

/-!
# Before the rounds

A run starts with its tools and the build.  Looking for tools issues no command and changes no file;
the first tool that is missing ends the run.  The build is one command with nothing on standard
input.
-/

namespace ValidatorKeys

namespace Provisioner

/-! ## Algorithm -/

/-- The first required tool that is not found. -/
def missingTool? (p : Provisioner) (t : FileTree) : Option String :=
  p.requiredTools.find? fun name => !p.environment.hasProgram t name

/-- The call that builds the node, unless the build is skipped. -/
def buildCall? (p : Provisioner) : Option Call :=
  if p.skipBuild then none
  else (Command.ofArgv? p.config.node.buildCommand).map fun c => ⟨c, none⟩

def prepare {σ : Type} (p : Provisioner) (r : Runner σ) : Run σ ProvisionError Unit := do
  p.checkTools
  if p.skipBuild then pure () else p.build r

/-- The rounds of a run, and its report. -/
def complete {σ : Type} (p : Provisioner) (r : Runner σ) (password : Password) :
    Run σ ProvisionError Report := do
  let rounds ← p.runRounds r password 1 p.config.keys.rounds
  pure ⟨!p.skipBuild, rounds⟩

/-- Nothing is built, or there is a command for it. -/
def Buildable (p : Provisioner) : Prop := p.skipBuild = true ∨ p.config.node.buildCommand ≠ []

/-! ## Lemmas -/

variable {σ : Type}

/-- Looking for tools leaves notices and nothing else. -/
theorem findTools_eq (e : Environment) (names : List String) (s : Session σ) :
    ∃ notices, findTools e names s =
      (match names.find? fun name => !e.hasProgram s.files name with
        | some name => .error (.missingTool name)
        | none => .ok (), { s with notices := notices }) := by
  induction names generalizing s with
  | nil => exact ⟨s.notices, rfl⟩
  | cons name rest ih =>
    have hget : findTools e (name :: rest) s =
        (if e.hasProgram s.files name = true then
          (Run.note (.toolFound name) >>= fun _ => findTools e rest : Run σ RunError Unit)
        else throw (.missingTool name)) s := rfl
    rw [hget, List.find?_cons]
    cases hfound : e.hasProgram s.files name with
    | true =>
      obtain ⟨notices, hrest⟩ := ih { s with notices := s.notices ++ [.toolFound name] }
      exact ⟨notices, (Run.note_bind ..).trans hrest⟩
    | false => exact ⟨s.notices, rfl⟩

theorem checkTools_eq (p : Provisioner) (s : Session σ) :
    ∃ notices, p.checkTools s =
      (match p.missingTool? s.files with
        | some name => .error (.pass (.run (.missingTool name)))
        | none => .ok (), { s with notices := notices }) := by
  obtain ⟨notices, h⟩ := findTools_eq p.environment p.requiredTools s
  refine ⟨notices, ?_⟩
  unfold checkTools Run.mapError missingTool?
  rw [h]
  cases p.requiredTools.find? fun name => !p.environment.hasProgram s.files name <;> rfl

theorem build_conducts {p : Provisioner} (hp : p.Buildable) {r : Runner σ}
    {F : Option (List Record) → FileTree → Prop} (hst : r.Steady F)
    {kept₀ : Option (List Record)} {s : Session σ} (hF : F kept₀ s.files) :
    Run.Conducts r F (fun e => ProvisionError.pass (.run e))
      (if p.skipBuild then pure () else p.build r) (Dialogue.askAll p.buildCall?.toList)
      (fun _ _ kept => kept = kept₀) kept₀ s := by
  unfold buildCall? build
  cases hskip : p.skipBuild with
  | true => exact Run.conducts_pure hF rfl
  | false =>
    cases hargv : p.config.node.buildCommand with
    | nil =>
      rcases hp with h | h
      · rw [hskip] at h
        cases h
      · exact absurd hargv h
    | cons program args =>
      refine Run.conducts_note_bind ?_
      refine Run.conducts_ask hst ?_ ⟨program, args⟩ none fun o s' hF' => ?_
      · exact hF
      · exact Run.conducts_pure hF' rfl

theorem buildable_of_build_ok {p : Provisioner} {r : Runner σ} {s s' : Session σ}
    (h : (if p.skipBuild then pure () else p.build r : Run σ ProvisionError Unit) s =
      (.ok (), s')) : p.Buildable := by
  by_cases hargv : p.config.node.buildCommand = []
  · left
    -- a build without a command fails
    cases hskip : p.skipBuild with
    | true => rfl
    | false =>
      rw [hskip, if_neg Bool.false_ne_true, build, hargv] at h
      cases h
  · exact Or.inr hargv

/-- What every command keeps of the files is kept by the build. -/
theorem holds_of_build_ok {T : FileTree → Prop} {r : Runner σ}
    (hT : ∀ c i t st, T t → T (r.run c i t st).files) {p : Provisioner} {s s' : Session σ}
    (h : (if p.skipBuild then pure () else p.build r : Run σ ProvisionError Unit) s =
      (.ok (), s')) (hs : T s.files) : T s'.files := by
  have hconducts : Run.Conducts r (fun _ t => T t) (fun e => .pass (.run e))
      (if p.skipBuild then pure () else p.build r) _ _ none s :=
    build_conducts (buildable_of_build_ok h) (fun _ => hT) hs
  obtain ⟨_, _, _, -, -, -, hF, -⟩ := hconducts.of_ok h
  exact hF

/-- What follows the tools and the build. -/
theorem provision_eq (p : Provisioner) (r : Runner σ) (password : Password) :
    p.provision r password = (do
      p.checkTools
      (if p.skipBuild then pure () else p.build r)
      let rounds ← p.runRounds r password 1 p.config.keys.rounds
      pure ⟨!p.skipBuild, rounds⟩) := by
  unfold provision
  cases p.skipBuild <;> simp

theorem provision_eq_prepare (p : Provisioner) (r : Runner σ) (password : Password) :
    p.provision r password = p.prepare r >>= fun _ => p.complete r password := by
  rw [provision_eq, prepare, bind_assoc]
  rfl

/-- Before the rounds, the build is the only command, if there is one at all. -/
theorem prepare_calls (p : Provisioner) (r : Runner σ) (s : Session σ) :
    ∃ build, build <+: p.buildCall?.toList ∧ (p.prepare r s).2.calls = s.calls ++ build := by
  obtain ⟨notices, hcheck⟩ := p.checkTools_eq s
  unfold prepare
  cases htools : p.missingTool? s.files with
  | some name =>
    rw [htools] at hcheck
    rw [Run.bind_error hcheck]
    exact ⟨[], List.nil_prefix, (List.append_nil _).symm⟩
  | none =>
    rw [htools] at hcheck
    rw [Run.bind_ok hcheck]
    by_cases hp : p.Buildable
    · have hconducts : Run.Conducts r (fun _ _ => True) (fun e => .pass (.run e))
          (if p.skipBuild then pure () else p.build r) _ _ none { s with notices := notices } :=
        build_conducts hp (fun _ _ _ _ _ _ => trivial) trivial
      obtain ⟨log, y, kept, ht, -, hc, -⟩ := hconducts
      exact ⟨_, ht.calls_askAll_isPrefix, hc⟩
    · obtain ⟨hskip, hargv⟩ := not_or.mp hp
      rw [if_neg hskip, build, Decidable.not_not.mp hargv]
      exact ⟨[], List.nil_prefix, (List.append_nil _).symm⟩

/-- Preparations that succeed found every required tool and asked for the build, and keep of the
files what every command keeps. -/
theorem prepare_ok {T : FileTree → Prop} {p : Provisioner} {r : Runner σ}
    (hT : ∀ c i t st, T t → T (r.run c i t st).files) {s s' : Session σ}
    (h : p.prepare r s = (.ok (), s')) :
    p.missingTool? s.files = none ∧ (T s.files → T s'.files) ∧
      ∃ log kept, Transcript (Dialogue.askAll p.buildCall?.toList) log (.ok ()) kept ∧
        Asked r s.state log s'.state ∧ s'.calls = s.calls ++ log.map Exchange.call := by
  obtain ⟨_, s₁, hcheck, hbuild⟩ := Run.ok_of_bind_ok h
  obtain ⟨notices, heq⟩ := p.checkTools_eq s
  rw [heq] at hcheck
  cases htools : p.missingTool? s.files with
  | some name =>
    rw [htools] at hcheck
    cases hcheck
  | none =>
    obtain rfl : { s with notices := notices } = s₁ := congrArg Prod.snd hcheck
    have hst : r.Steady fun _ t => T s.files → T t := fun _ c i t st h hs => hT c i t st (h hs)
    have hconducts : Run.Conducts r (fun _ t => T s.files → T t) (fun e => .pass (.run e))
        (if p.skipBuild then pure () else p.build r) _ _ none { s with notices := notices } :=
      build_conducts (buildable_of_build_ok hbuild) hst fun hs => hs
    obtain ⟨log, _, kept, ht, hasked, hcalls, hF, -⟩ := hconducts.of_ok hbuild
    exact ⟨rfl, hF, log, kept, ht, hasked, hcalls⟩

end Provisioner

end ValidatorKeys
