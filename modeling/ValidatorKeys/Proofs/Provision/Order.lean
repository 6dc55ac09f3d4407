import ValidatorKeys.Proofs.Provision.Rounds

/-!
# The order of a run

A run issues the build, and then in each round one generation to each scheme and one insertion to
each binding that receives a token.  The first command that fails is the last one issued, and its
error is that of the run.  Up to there, the commands are those of every run with the same answers.

    calls of a run that came to its end = the build, then roundCalls payload outputs for each round
    calls of a run that failed <+: calls of a run whose answers agree before the last one
-/

namespace ValidatorKeys

namespace Provisioner

/-! ## What a run asks and is answered -/

/-- The runner answers from a script and leaves the key file alone, which can be written and
read. -/
structure Ready {σ : Type} (p : Provisioner) (r : Runner σ) (script : σ → Script) (s : Session σ)
    (l : Location) : Prop where
  plays : r.Plays script
  spares : r.Spares p.environment.directory p.keyFile
  place : s.files.HasPlace p.environment.directory p.keyFile l

/-- Rounds that came to their end.  Each begins with the outputs of generation, and goes on with one
insertion for each binding that receives a token. -/
inductive RoundsLog (p : Provisioner) (payload : String) :
    List (List String) → List Exchange → Prop where
  | nil : RoundsLog p payload [] []
  | cons {outputs : List String} {rest : List (List String)} {inserted log : List Exchange} :
      outputs.length = p.config.keys.schemes.length →
      inserted.map Exchange.call = Assignment.calls p.node payload (p.assignments outputs) →
      RoundsLog p payload rest log →
      RoundsLog p payload (outputs :: rest)
        (generationLog p.node payload p.config.keys.schemes outputs ++ inserted ++ log)

/-- A run that came to its end. -/
structure Completed (p : Provisioner) (payload : String) (log : List Exchange)
    (outputs : List (List String)) (report : Report) : Prop where
  /-- No command failed. -/
  succeeded : ∀ x ∈ log, ∃ o, x.answer = .ok o
  /-- The outputs are what the generations were answered, round by round. -/
  log_eq : ∃ build rounds, log = build ++ rounds ∧
    build.map Exchange.call = p.buildCall?.toList ∧ p.RoundsLog payload outputs rounds
  /-- The build comes first, and then each round with its generations before its insertions. -/
  calls_eq : log.map Exchange.call =
    p.buildCall?.toList ++ outputs.flatMap (p.roundCalls payload)
  length_outputs : outputs.length = p.config.keys.rounds
  built_eq : report.built = !p.skipBuild
  rounds_eq : report.rounds = outputs.mapIdx fun i os => p.roundReport (1 + i) os
  numbered : report.rounds.map RoundReport.round = List.range' 1 p.config.keys.rounds

/-- How a run may end when it could begin. -/
inductive Outcome (p : Provisioner) (payload : String) (log : List Exchange) :
    Except ProvisionError Report → Prop where
  | completed (outputs : List (List String)) (report : Report) :
      p.Completed payload log outputs report → Outcome p payload log (.ok report)
  /-- The last command failed, and only that one. -/
  | stopped (before : List Exchange) (c : Call) (e : RunError) :
      log = before ++ [⟨c, .error e⟩] → (∀ x ∈ before, ∃ o, x.answer = .ok o) →
      Outcome p payload log (.error (.pass (.run e)))

end Provisioner

/-! ## Lemmas -/

theorem Transcript.of_roundDialogue {p : Provisioner} {payload : String} {log : List Exchange}
    {outputs : List String} {kept : Option (List Record)}
    (h : Transcript (p.roundDialogue payload) log (.ok outputs) kept) :
    ∃ inserted, log = generationLog p.node payload p.config.keys.schemes outputs ++ inserted ∧
      outputs.length = p.config.keys.schemes.length ∧
      inserted.map Exchange.call = Assignment.calls p.node payload (p.assignments outputs) := by
  obtain ⟨log₁, log₂, os, _, _, rfl, -, h₁, h₂⟩ := h.of_bind_ok
  cases h₁ with
  | keep h₁ =>
    obtain ⟨hlen, rfl⟩ := h₁.of_generation
    obtain ⟨inserted, log₄, _, _, _, rfl, -, h₃, h₄⟩ := h₂.of_bind_ok
    cases h₄ with
    | done => exact ⟨inserted, by rw [List.append_nil], hlen, h₃.calls_askAll.1⟩

theorem Transcript.of_roundsDialogue {p : Provisioner} {payload : String} {left : Nat}
    {log : List Exchange} {outputs : List (List String)} {kept : Option (List Record)}
    (h : Transcript (p.roundsDialogue payload left) log (.ok outputs) kept) :
    outputs.length = left ∧ p.RoundsLog payload outputs log := by
  induction left generalizing log outputs kept with
  | zero =>
    cases h with
    | done => exact ⟨rfl, .nil⟩
  | succ left ih =>
    obtain ⟨log₁, log₂, os, _, _, rfl, -, h₁, h₂⟩ := h.of_bind_ok
    obtain ⟨log₃, log₄, rest, _, _, rfl, -, h₃, h₄⟩ := h₂.of_bind_ok
    obtain ⟨inserted, rfl, hlen, hins⟩ := h₁.of_roundDialogue
    obtain ⟨hrest, hlog⟩ := ih h₃
    cases h₄ with
    | done =>
      refine ⟨by rw [List.length_cons, hrest], ?_⟩
      rw [List.append_nil]
      exact .cons hlen hins hlog

namespace Provisioner

theorem RoundsLog.calls_eq {p : Provisioner} {payload : String} {outputs : List (List String)}
    {log : List Exchange} (h : p.RoundsLog payload outputs log) :
    log.map Exchange.call = outputs.flatMap (p.roundCalls payload) := by
  induction h with
  | nil => rfl
  | cons hlen hins _ ih =>
    rw [List.map_append, List.map_append, map_call_generationLog, hlen, List.take_length, hins, ih,
      List.flatMap_cons, roundCalls]

theorem map_round_mapIdx (p : Provisioner) (first : Nat) (outputs : List (List String)) :
    (outputs.mapIdx fun i os => p.roundReport (first + i) os).map RoundReport.round =
      List.range' first outputs.length := by
  induction outputs generalizing first with
  | nil => rfl
  | cons os rest ih =>
    rw [List.mapIdx_cons, List.map_cons, List.length_cons, List.range'_succ, ← ih (first + 1)]
    simp only [Nat.add_assoc, Nat.add_comm 1]
    rfl

/-- A run that came to its end went in order. -/
theorem completed_of_transcript {p : Provisioner} {payload : String} {log : List Exchange}
    {outputs : List (List String)} {kept : Option (List Record)}
    (h : Transcript (p.runDialogue payload) log (.ok outputs) kept) :
    p.Completed payload log outputs
      ⟨!p.skipBuild, outputs.mapIdx fun i os => p.roundReport (1 + i) os⟩ := by
  have hsucceeded := h.answers_of_ok
  obtain ⟨build, rounds, _, _, _, rfl, -, h₁, h₂⟩ := h.of_bind_ok
  have hbuild := h₁.calls_askAll.1
  obtain ⟨hlen, hrounds⟩ := h₂.of_roundsDialogue
  refine ⟨hsucceeded, ⟨build, rounds, rfl, hbuild, hrounds⟩, ?_, hlen, rfl, rfl, ?_⟩
  · rw [List.map_append, hbuild, hrounds.calls_eq]
  · rw [map_round_mapIdx, hlen]

section

variable {σ : Type} {p : Provisioner} {r : Runner σ} {script : σ → Script} {s : Session σ}
  {l : Location}

/-- A tool that is missing ends the run before anything happens. -/
theorem provision_of_missingTool {name : String} (h : p.missingTool? s.files = some name)
    (r : Runner σ) (password : Password) :
    ∃ s', p.provision r password s = (.error (.pass (.run (.missingTool name))), s') ∧
      s'.calls = s.calls ∧ s'.files = s.files := by
  obtain ⟨notices, hcheck⟩ := p.checkTools_eq s
  rw [h] at hcheck
  rw [provision_eq]
  exact ⟨_, Run.bind_error hcheck _, rfl, rfl⟩

/-- A build without a command ends the run before anything is issued. -/
theorem provision_of_not_buildable (htools : p.missingTool? s.files = none) (hp : ¬p.Buildable)
    (r : Runner σ) (password : Password) :
    ∃ s', p.provision r password s = (.error .emptyBuildCommand, s') ∧
      s'.calls = s.calls ∧ s'.files = s.files := by
  obtain ⟨hskip, hargv⟩ := not_or.mp hp
  obtain ⟨notices, hcheck⟩ := p.checkTools_eq s
  rw [htools] at hcheck
  rw [provision_eq, Run.bind_ok hcheck, if_neg hskip]
  refine ⟨{ s with notices := notices }, Run.bind_error ?_ _, rfl, rfl⟩
  rw [build, Decidable.not_not.mp hargv]
  rfl

/-- With prepared answers a run is ready where its key file has a place. -/
theorem ready_scripted {s : Session (List Answer)}
    (h : s.files.HasPlace p.environment.directory p.keyFile l) :
    p.Ready scripted Answer.script s l := ⟨scripted_plays, scripted_spares _ _, h⟩

/-- A run that could begin goes as its dialogue may go, with the answers of the script. -/
theorem Ready.provision (h : p.Ready r script s l) (htools : p.missingTool? s.files = none)
    (hp : p.Buildable) (password : Password) :
    ∃ log y kept, Transcript (p.runDialogue password.payload) log y kept ∧
      (script s.state).Gives log ∧
      (p.provision r password s).2.calls = s.calls ++ log.map Exchange.call ∧
      KeyFile.Holds p.environment.directory p.keyFile l (s.files.get? l) kept
        (p.provision r password s).2.files ∧
      p.Outcome password.payload log (p.provision r password s).1 := by
  obtain ⟨log, y, kept, ht, hasked, hc, hF, hy⟩ := provision_conducts h.spares h.place.no_slash
    h.place.regular hp password s htools ⟨h.place.locate, rfl⟩
  rw [Option.or_none] at hF
  refine ⟨log, y, kept, ht, (hasked.gives h.plays).1, hc, hF, ?_⟩
  cases y with
  | ok outputs =>
    obtain ⟨report, hreport, rfl⟩ := hy
    rw [hreport]
    exact .completed outputs _ (completed_of_transcript ht)
  | error e =>
    obtain ⟨before, c, hlog, hbefore⟩ := ht.answers_of_error
    rw [hy]
    exact .stopped before c e hlog hbefore

end

/-- A build that fails is the only command, and nothing is kept after it. -/
theorem transcript_of_failed_build {p : Provisioner} {payload : String} {c : Call}
    (hc : p.buildCall? = some c) {log : List Exchange}
    {y : Except RunError (List (List String))} {kept : Option (List Record)}
    (h : Transcript (p.runDialogue payload) log y kept) {script : Script} (hs : script.Gives log)
    {e : RunError} (he : script 0 c.command = .error e) : log = [⟨c, .error e⟩] ∧ kept = none := by
  rw [runDialogue, hc, Option.toList_some] at h
  cases h with
  | failed _ _ e' =>
    have hanswer := ((Script.gives_cons ..).mp hs).1
    rw [he] at hanswer
    exact ⟨by rw [hanswer], rfl⟩
  | answered h =>
    have hanswer := ((Script.gives_cons ..).mp hs).1
    rw [he] at hanswer
    cases hanswer

end Provisioner

/-! ## Top theorem -/

/-- **A run keeps its order and stops at the first failure.**

A tool that is missing, or a build without a command, ends it before anything happens.  Else it
goes in order, to its end or to the first command that fails; if that is the build, the key file
is as it was.  Any other run whose answers agree before the last command begins with the same
commands. -/
theorem provision_order {σ : Type} {p : Provisioner} {r : Runner σ} {script : σ → Script}
    {s : Session σ} {l : Location} (h : p.Ready r script s l) (password : Password) :
    (∀ name, p.missingTool? s.files = some name →
      ∃ s', p.provision r password s = (.error (.pass (.run (.missingTool name))), s') ∧
        s'.calls = s.calls ∧ s'.files = s.files) ∧
    (p.missingTool? s.files = none → ¬p.Buildable →
      ∃ s', p.provision r password s = (.error .emptyBuildCommand, s') ∧
        s'.calls = s.calls ∧ s'.files = s.files) ∧
    (p.missingTool? s.files = none → p.Buildable →
      ∃ log x s', p.provision r password s = (x, s') ∧
        s'.calls = s.calls ++ log.map Exchange.call ∧ (script s.state).Gives log ∧
        p.Outcome password.payload log x ∧
        (∀ c e, p.buildCall? = some c → script s.state 0 c.command = .error e →
          log = [⟨c, .error e⟩] ∧ s'.files.lookup p.environment.directory p.keyFile =
            s.files.lookup p.environment.directory p.keyFile) ∧
        ∀ {τ : Type} (r₂ : Runner τ) (script₂ : τ → Script) (s₂ : Session τ) (l₂ : Location),
          p.Ready r₂ script₂ s₂ l₂ → p.missingTool? s₂.files = none →
          (script₂ s₂.state).Gives log.dropLast →
          ∃ log₂ : List Exchange,
            (p.provision r₂ password s₂).2.calls = s₂.calls ++ log₂.map Exchange.call ∧
            log.map Exchange.call <+: log₂.map Exchange.call) := by
  refine ⟨fun name hname => Provisioner.provision_of_missingTool hname r password,
    fun htools hp => Provisioner.provision_of_not_buildable htools hp r password,
    fun htools hp => ?_⟩
  obtain ⟨log, y, kept, ht, hgives, hc, hF, hout⟩ := h.provision htools hp password
  refine ⟨log, (p.provision r password s).1, (p.provision r password s).2, rfl, hc, hgives, hout,
    fun c e hbuild he => ?_, ?_⟩
  · obtain ⟨hlog, rfl⟩ := Provisioner.transcript_of_failed_build hbuild ht hgives he
    obtain ⟨hloc, hget⟩ := hF
    refine ⟨hlog, FileTree.lookup_congr (hloc.trans h.place.locate.symm) fun k hk => ?_⟩
    rw [h.place.locate, Except.ok.injEq] at hk
    rw [← hk, hget]
  · intro τ r₂ script₂ s₂ l₂ h₂ htools₂ hagree
    obtain ⟨log₂, y₂, kept₂, ht₂, hgives₂, hc₂, -, -⟩ := h₂.provision htools₂ hp password
    exact ⟨log₂, hc₂, ht.calls_isPrefix ht₂ hagree hgives₂⟩

/-- A build that is found in the search path and fails. -/
theorem provision_order_failed_build :
    let p : Provisioner := {
      config := { node := { buildCommand := ["make"] }, tools := { required := [] } }
      environment := ⟨"/", [("PATH", "/bin")]⟩ }
    let password : Password := ⟨"pw", by decide⟩
    let s : Session (List Answer) := {
      files := ⟨[(["bin"], .directory 0o755), (["make", "bin"], .program "make")]⟩
      state := [.failure "exit status: 2" "no rule"] }
    let make : Command := ⟨"make", []⟩
    p.Ready scripted Answer.script s ["keys.txt"] ∧
    p.missingTool? s.files = none ∧ p.Buildable ∧
    ∃ log x s', p.provision scripted password s = (x, s') ∧
      s'.calls = log.map Exchange.call ∧ p.Outcome password.payload log x ∧
      log = [⟨⟨make, none⟩, .error (.failed make.text "exit status: 2" "no rule")⟩] ∧
      s'.files.lookup "/" p.keyFile = s.files.lookup "/" p.keyFile := by
  intro p password s make
  have hpath : p.keyFile = "keys.txt" := by decide +kernel
  have hplace : s.files.HasPlace "/" "keys.txt" ["keys.txt"] := by
    refine ⟨by rfl, by decide +kernel, fun n hn => ?_⟩
    cases hn
  have hready : p.Ready scripted Answer.script s ["keys.txt"] :=
    Provisioner.ready_scripted (hpath ▸ hplace)
  have htools : p.missingTool? s.files = none := by decide +kernel
  have hp : p.Buildable := Or.inr (by decide)
  obtain ⟨log, x, s', hrun, hcalls, -, hout, hbuild, -⟩ :=
    (provision_order hready password).2.2 htools hp
  obtain ⟨hlog, hfile⟩ := hbuild ⟨make, none⟩ _ rfl rfl
  exact ⟨hready, htools, hp, log, x, s', hrun, hcalls, hout, hlog, hfile⟩

end ValidatorKeys
