import ValidatorKeys.Proofs.Assignment.Commands
import ValidatorKeys.Proofs.Provision.Generation
import ValidatorKeys.Proofs.Provision.Preparation

/-!
# Rounds as dialogues

A round asks for one key to each scheme, and then for one insertion to each binding that gets a
token from what was generated.  The outputs of generation settle everything else: what the key file
holds, which token goes to which binding, and both reports.

    runRounds r password 1 n  conducts  roundsDialogue payload n
    calls of a run = the build, then roundCalls payload outputs for each round
-/

namespace ValidatorKeys

open Text (IsLine)

namespace Provisioner

/-! ## Algorithm -/

/-- The token that each configured binding receives after these outputs. -/
def assignments (p : Provisioner) (outputs : List String) : List Assignment :=
  assign p.config.keys.conflictPolicy ((seedRecords p.config.keys.schemes outputs).map Record.line)
    p.config.keys.bindings {}

/-- One generation and one insertion; answers the outputs of generation. -/
def roundDialogue (p : Provisioner) (payload : String) : Dialogue (List String) :=
  (Dialogue.keep [] (generation p.node payload [] p.config.keys.schemes)).bind fun outputs =>
    (Dialogue.askAll (Assignment.calls p.node payload (p.assignments outputs))).bind fun _ =>
      .done outputs

def roundsDialogue (p : Provisioner) (payload : String) : Nat → Dialogue (List (List String))
  | 0 => .done []
  | left + 1 => (p.roundDialogue payload).bind fun outputs =>
      (p.roundsDialogue payload left).bind fun rest => .done (outputs :: rest)

/-- The build, unless it is skipped, and then all rounds. -/
def runDialogue (p : Provisioner) (payload : String) : Dialogue (List (List String)) :=
  (Dialogue.askAll p.buildCall?.toList).bind fun _ =>
    p.roundsDialogue payload p.config.keys.rounds

def roundReport (p : Provisioner) (round : Nat) (outputs : List String) : RoundReport :=
  ⟨round, some (generateReport p.config.keys.schemes outputs),
    some (Assignment.report (p.assignments outputs))⟩

/-- The calls of a round with these outputs: one for each scheme, and then one for each binding that
receives a token. -/
def roundCalls (p : Provisioner) (payload : String) (outputs : List String) : List Call :=
  p.config.keys.schemes.map (generateCall p.node payload) ++
    Assignment.calls p.node payload (p.assignments outputs)

end Provisioner

/-! ## Lemmas -/

section

variable {σ : Type} {r : Runner σ} {cwd path : String} {l : Location} {before : Option Node}
  (hsp : r.Spares cwd path) (hslash : Path.endsInSlash path = false)

include hsp hslash

/-- An insertion pass inserts from the records that the key file holds. -/
theorem insertionPass_conducts (node : String) (policy : ConflictPolicy) (password : Password)
    (bindings : List Binding) {rs : List Record} (hrs : ∀ r ∈ rs, IsLine r.seedLine)
    (s : Session σ) (hF : KeyFile.Holds cwd path l before (some rs) s.files) :
    Run.Conducts r (KeyFile.Holds cwd path l before) PassError.run
      (insertionPass r cwd node policy password path bindings)
      (Dialogue.askAll (Assignment.calls node password.payload
        (assign policy (rs.map Record.line) bindings {})))
      (fun report _ kept => report = Assignment.report
        (assign policy (rs.map Record.line) bindings {}) ∧ kept = some rs) (some rs) s := by
  refine Run.conducts_onFiles_bind (KeyFile.readLines_eq hF hslash hrs) ?_
  rw [← Dialogue.bind_done (Dialogue.askAll _)]
  refine (insertKeys_conducts (hsp.steady l before) node password.payload policy _ bindings {}
    hF).bind fun x _ kept s' hR hF' => ?_
  obtain ⟨report, consumed⟩ := x
  obtain ⟨hx, rfl⟩ := hR
  cases hx
  exact Run.conducts_note_bind (Run.conducts_pure hF' ⟨rfl, rfl⟩)

end

namespace Provisioner

section

variable {σ : Type} {p : Provisioner} {r : Runner σ} {l : Location} {before : Option Node}
  (hsp : r.Spares p.environment.directory p.keyFile) (hslash : Path.endsInSlash p.keyFile = false)
  (hbefore : ∀ n, before = some n → ∃ content mode, n = .file content mode)

theorem insert_conducts (hsp : r.Spares p.environment.directory p.keyFile)
    (hslash : Path.endsInSlash p.keyFile = false) (password : Password) (outputs : List String)
    (s : Session σ) (hF : KeyFile.Holds p.environment.directory p.keyFile l before
      (some (seedRecords p.config.keys.schemes outputs)) s.files) :
    Run.Conducts r (KeyFile.Holds p.environment.directory p.keyFile l before)
      (fun e => ProvisionError.pass (.run e)) (p.insert r password)
      (Dialogue.askAll (Assignment.calls p.node password.payload (p.assignments outputs)))
      (fun report _ kept => report = Assignment.report (p.assignments outputs) ∧
        kept = some (seedRecords p.config.keys.schemes outputs))
      (some (seedRecords p.config.keys.schemes outputs)) s := by
  unfold insert
  refine Run.conducts_note_bind (Run.Conducts.mapError ProvisionError.pass ?_)
  exact insertionPass_conducts hsp hslash p.node p.config.keys.conflictPolicy password
    p.config.keys.bindings (fun r hr => isLine_of_mem_seedRecords hr) _ hF

include hsp hslash hbefore

theorem generate_conducts (password : Password) (kept₀ : Option (List Record)) (s : Session σ)
    (hF : KeyFile.Holds p.environment.directory p.keyFile l before kept₀ s.files) :
    Run.Conducts r (KeyFile.Holds p.environment.directory p.keyFile l before)
      (fun e => ProvisionError.pass (.run e)) (p.generate r password)
      (.keep [] (generation p.node password.payload [] p.config.keys.schemes))
      (fun report outputs kept => report = generateReport p.config.keys.schemes outputs ∧
        kept = some (seedRecords p.config.keys.schemes outputs)) kept₀ s := by
  unfold generate
  refine Run.conducts_note_bind (Run.Conducts.mapError ProvisionError.pass ?_)
  exact generationPass_conducts hsp hslash hbefore p.node password p.config.keys.schemes kept₀ _ hF

/-- **Each round conducts its dialogue**, whatever the key file held before it, and leaves its own
records there. -/
theorem runRounds_conducts (password : Password) (first left : Nat)
    (kept₀ : Option (List Record)) (s : Session σ)
    (hF : KeyFile.Holds p.environment.directory p.keyFile l before kept₀ s.files) :
    Run.Conducts r (KeyFile.Holds p.environment.directory p.keyFile l before)
      (fun e => ProvisionError.pass (.run e)) (p.runRounds r password first left)
      (p.roundsDialogue password.payload left)
      (fun reports outputs kept =>
        (reports = outputs.mapIdx fun i os => p.roundReport (first + i) os) ∧
          kept = (outputs.getLast?.map (seedRecords p.config.keys.schemes)).or kept₀) kept₀ s := by
  induction left generalizing first kept₀ s with
  | zero => exact Run.conducts_pure hF ⟨rfl, rfl⟩
  | succ left ih =>
    rw [runRounds, roundsDialogue, roundDialogue, Dialogue.bind_assoc]
    refine Run.conducts_note_bind ?_
    refine (generate_conducts hsp hslash hbefore password kept₀ _ ?_).bind
      fun g outputs kept s₁ hR hF₁ => ?_
    · exact hF
    obtain ⟨rfl, rfl⟩ := hR
    rw [Dialogue.bind_assoc]
    refine (insert_conducts hsp hslash password outputs s₁ hF₁).bind fun i _ kept s₂ hR hF₂ => ?_
    obtain ⟨rfl, rfl⟩ := hR
    rw [Dialogue.bind]
    refine (ih (first + 1) _ s₂ hF₂).bind fun reports rest kept s₃ hR hF₃ => ?_
    obtain ⟨rfl, rfl⟩ := hR
    refine Run.conducts_pure hF₃ ⟨?_, ?_⟩
    · rw [List.mapIdx_cons]
      simp only [Nat.add_assoc, Nat.add_comm 1]
      rfl
    · rw [List.getLast?_cons]
      cases rest.getLast? <;> rfl

/-- **A run that finds its tools conducts the build and the rounds.** -/
theorem provision_conducts (hp : p.Buildable) (password : Password) (s : Session σ)
    (htools : p.missingTool? s.files = none)
    (hF : KeyFile.Holds p.environment.directory p.keyFile l before none s.files) :
    Run.Conducts r (KeyFile.Holds p.environment.directory p.keyFile l before)
      (fun e => ProvisionError.pass (.run e)) (p.provision r password)
      (p.runDialogue password.payload)
      (fun report outputs _ =>
        report = ⟨!p.skipBuild, outputs.mapIdx fun i os => p.roundReport (1 + i) os⟩) none s := by
  obtain ⟨notices, hcheck⟩ := p.checkTools_eq s
  rw [htools] at hcheck
  rw [provision_eq, runDialogue]
  refine Run.conducts_notices_bind hcheck ?_
  refine (build_conducts hp (hsp.steady l before) ?_).bind fun _ _ kept s₁ hR hF₁ => ?_
  · exact hF
  rw [← Dialogue.bind_done (p.roundsDialogue _ _)]
  refine (runRounds_conducts hsp hslash hbefore password 1 p.config.keys.rounds kept s₁ hF₁).bind
    fun reports outputs kept s₂ hR hF₂ => ?_
  obtain ⟨rfl, -⟩ := hR
  exact Run.conducts_pure hF₂ rfl

end

end Provisioner

end ValidatorKeys
