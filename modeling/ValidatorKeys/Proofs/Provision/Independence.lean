import ValidatorKeys.Proofs.Provision.Handoff
import ValidatorKeys.Proofs.Provision.Order

/-!
# What a run leaves and what it depends on

Generation empties the key file and insertion starts with no token consumed.  So what a run does is
settled by the answers that it gets, whatever the key file held before, also where it fails; and
when it came to its end, each report and all insertions of a round are those of its own outputs, and
the file holds the records of the last round.

    the same answers, any two key files  →  the same commands, the same end, the same records
    after a run: key file = fileBytes (seedRecords schemes outputs of the last round)
-/

namespace ValidatorKeys

namespace Provisioner

variable {σ : Type} {p : Provisioner} {r : Runner σ}

/-! ## Definitions -/

/-- Runs from two sessions issue the same commands, end alike and keep the same records. -/
structure RunsAlike (p : Provisioner) (r : Runner σ) (password : Password) (s s' : Session σ)
    (l l' : Location) : Prop where
  outcome : (p.provision r password s).1 = (p.provision r password s').1
  calls : ∃ calls, (p.provision r password s).2.calls = s.calls ++ calls ∧
    (p.provision r password s').2.calls = s'.calls ++ calls
  /-- Where the key files stood when the runs began, both have been left alone or hold the same. -/
  keyFile : ∃ kept,
    KeyFile.Holds p.environment.directory p.keyFile l (s.files.get? l) kept
      (p.provision r password s).2.files ∧
    KeyFile.Holds p.environment.directory p.keyFile l' (s'.files.get? l') kept
      (p.provision r password s').2.files

/-- The key file holds the records of these outputs and nothing else. -/
def KeepsOnly (p : Provisioner) (outputs : List String) (t : FileTree) : Prop :=
  ∃ l mode, t.lookup p.environment.directory p.keyFile =
    .ok (l, .file (fileBytes (seedRecords p.config.keys.schemes outputs)) mode)

/-! ## The same answers -/

section

variable {script : σ → Script} {s s' : Session σ} {l l' : Location}

/-- Where no run has begun, both sessions are as they were. -/
theorem RunsAlike.of_refused (h : p.Ready r script s l) (h' : p.Ready r script s' l')
    {password : Password} {e : ProvisionError}
    (hs : ∃ s₁, p.provision r password s = (.error e, s₁) ∧ s₁.calls = s.calls ∧
      s₁.files = s.files)
    (hs' : ∃ s₁, p.provision r password s' = (.error e, s₁) ∧ s₁.calls = s'.calls ∧
      s₁.files = s'.files) :
    p.RunsAlike r password s s' l l' := by
  obtain ⟨s₁, hrun, hcalls, hfiles⟩ := hs
  obtain ⟨s₁', hrun', hcalls', hfiles'⟩ := hs'
  refine ⟨by rw [hrun, hrun'], ⟨[], ?_, ?_⟩, none, ?_, ?_⟩
  · rw [hrun, List.append_nil]
    exact hcalls
  · rw [hrun', List.append_nil]
    exact hcalls'
  · rw [hrun]
    exact ⟨hfiles ▸ h.place.locate, hfiles ▸ rfl⟩
  · rw [hrun']
    exact ⟨hfiles' ▸ h'.place.locate, hfiles' ▸ rfl⟩

/-- **What a run does is settled by the answers it gets**, whatever the key file held before. -/
theorem runsAlike_of_script (h : p.Ready r script s l) (h' : p.Ready r script s' l')
    (hscript : script s.state = script s'.state)
    (htools : p.missingTool? s.files = p.missingTool? s'.files) (password : Password) :
    p.RunsAlike r password s s' l l' := by
  cases hmissing : p.missingTool? s.files with
  | some name =>
    exact .of_refused h h' (provision_of_missingTool hmissing r password)
      (provision_of_missingTool (htools ▸ hmissing) r password)
  | none =>
    by_cases hp : p.Buildable
    · obtain ⟨log, y, kept, ht, hasked, hcalls, hF, hy⟩ := provision_conducts h.spares
        h.place.no_slash h.place.regular hp password s hmissing ⟨h.place.locate, rfl⟩
      obtain ⟨log', y', kept', ht', hasked', hcalls', hF', hy'⟩ := provision_conducts h'.spares
        h'.place.no_slash h'.place.regular hp password s' (htools ▸ hmissing)
        ⟨h'.place.locate, rfl⟩
      obtain ⟨rfl, rfl, rfl⟩ := ht.unique ht' (hasked.gives h.plays).1
        (hscript ▸ (hasked'.gives h.plays).1)
      refine ⟨?_, ⟨_, hcalls, hcalls'⟩, kept, ?_, ?_⟩
      · cases y with
        | ok outputs =>
          obtain ⟨report, hreport, rfl⟩ := hy
          obtain ⟨report', hreport', rfl⟩ := hy'
          rw [hreport, hreport']
        | error e => rw [hy, hy']
      · rwa [Option.or_none] at hF
      · rwa [Option.or_none] at hF'
    · exact .of_refused h h' (provision_of_not_buildable hmissing hp r password)
        (provision_of_not_buildable (htools ▸ hmissing) hp r password)

end

/-! ## What is left -/

/-- The key file of rounds that came to their end has a place. -/
theorem hasPlace_of_runRounds {password : Password} {first left : Nat} {s s' : Session σ}
    {rounds : List RoundReport}
    (h : p.runRounds r password first (left + 1) s = (.ok rounds, s'))
    (hclear : s.files.Clear p.environment.directory p.keyFile) :
    ∃ l, s.files.HasPlace p.environment.directory p.keyFile l := by
  rw [runRounds, Run.note_bind] at h
  obtain ⟨g, s₁, hg, -⟩ := Run.ok_of_bind_ok h
  rw [generate, Run.note_bind] at hg
  obtain ⟨l, hplace⟩ := hasPlace_of_generationPass (Run.ok_of_mapError_ok hg) hclear
  exact ⟨l, hplace⟩

/-- Rounds that came to their end, and what they leave. -/
theorem runRounds_ok (hsp : r.Spares p.environment.directory p.keyFile) {password : Password}
    {first left : Nat} {s s' : Session σ} {rounds : List RoundReport}
    (h : p.runRounds r password first left s = (.ok rounds, s'))
    (hclear : s.files.Clear p.environment.directory p.keyFile) :
    ∃ log outputs kept, Transcript (p.roundsDialogue password.payload left) log (.ok outputs) kept ∧
      Asked r s.state log s'.state ∧ s'.calls = s.calls ++ log.map Exchange.call ∧
      (rounds = outputs.mapIdx fun i os => p.roundReport (first + i) os) ∧
      ∀ last, outputs.getLast? = some last → p.KeepsOnly last s'.files := by
  cases left with
  | zero =>
    cases h
    exact ⟨[], [], none, .done [], .nil _, (List.append_nil _).symm, rfl, by simp⟩
  | succ left =>
    obtain ⟨l, hplace⟩ := hasPlace_of_runRounds h hclear
    obtain ⟨log, outputs, kept, ht, hasked, hcalls, hF, hrounds, hkept⟩ :=
      (runRounds_conducts hsp hplace.no_slash hplace.regular password first (left + 1) none s
        ⟨hplace.locate, rfl⟩).of_ok h
    refine ⟨log, outputs, kept, ht, hasked, hcalls, hrounds, fun last hlast => ?_⟩
    rw [hkept, hlast] at hF
    exact ⟨l, _, KeyFile.Holds.lookup_eq hF hplace.no_slash⟩

/-- **A run that came to its end left the records of its last round**, and the reports and the
commands of each round are those of its own outputs. -/
theorem provision_ok (hsp : r.Spares p.environment.directory p.keyFile)
    (hclear : ∀ c i t st, t.Clear p.environment.directory p.keyFile →
      (r.run c i t st).files.Clear p.environment.directory p.keyFile)
    {password : Password} {s s' : Session σ} {report : Report}
    (h : p.provision r password s = (.ok report, s'))
    (hs : s.files.Clear p.environment.directory p.keyFile) :
    ∃ log outputs, Asked r s.state log s'.state ∧
      s'.calls = s.calls ++ log.map Exchange.call ∧
      p.Completed password.payload log outputs report ∧
      ∀ last, outputs.getLast? = some last → p.KeepsOnly last s'.files := by
  rw [provision_eq_prepare] at h
  obtain ⟨_, s₁, hprepare, h⟩ := Run.ok_of_bind_ok h
  obtain ⟨rounds, s₂, hrounds, h⟩ := Run.ok_of_bind_ok h
  cases h
  obtain ⟨-, hclear₁, log, kept, ht, hasked, hcalls⟩ := prepare_ok hclear hprepare
  obtain ⟨log', outputs, kept', ht', hasked', hcalls', rfl, hlast⟩ :=
    runRounds_ok hsp hrounds (hclear₁ hs)
  refine ⟨log ++ log', outputs, hasked.append hasked', ?_, completed_of_transcript (ht.bind_ok ht'),
    hlast⟩
  rw [hcalls', hcalls, List.map_append, List.append_assoc]

end Provisioner

end ValidatorKeys
