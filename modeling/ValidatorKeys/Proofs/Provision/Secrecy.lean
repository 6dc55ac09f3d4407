import ValidatorKeys.Proofs.Provision.Preparation
import ValidatorKeys.Proofs.SideBySide.Passes

/-!
# The password reaches only standard input

The build is issued before the password is used, and from then on the password is the input of key
commands and nothing else.  So two runs with different passwords, over a runner whose replies do not
depend on that input, stay side by side to their end: they issue the same commands, tell the same,
leave the same files, and end with the same report or the same error.

    calls with password w = the build, then keys.map (KeyRequest.call node (w.text ++ "\n"))
-/

namespace ValidatorKeys

variable {σ : Type}

/-! ## Definitions -/

/-- What a runner does with a command does not depend on the text on standard input. -/
def Runner.IgnoresInput (r : Runner σ) : Prop :=
  ∀ c i j t st, r.run c (some i) t st = r.run c (some j) t st

theorem scripted_ignoresInput : scripted.IgnoresInput := by
  intro c i j t answers
  cases answers <;> rfl

/-- Sessions that are the same but for the payload of the key commands issued since the calls were
`base`. -/
structure Session.SameBut (base : List Call) (node payload payload' : String)
    (s s' : Session σ) : Prop where
  files : s.files = s'.files
  state : s.state = s'.state
  notices : s.notices = s'.notices
  calls : ∃ keys : List KeyRequest, s.calls = base ++ keys.map (KeyRequest.call node payload) ∧
    s'.calls = base ++ keys.map (KeyRequest.call node payload')

/-! ## Lemmas -/

theorem Session.SameBut.refl (s : Session σ) (node payload payload' : String) :
    Session.SameBut s.calls node payload payload' s s :=
  ⟨rfl, rfl, rfl, [], (List.append_nil _).symm, (List.append_nil _).symm⟩

theorem Session.SameBut.bond {r : Runner σ} (hr : r.IgnoresInput) (base : List Call)
    (node payload payload' : String) :
    Session.Bond r node payload payload' Eq (Session.SameBut base node payload payload') where
  told _ := rfl
  files_eq _ _ h := h.files
  note _ _ n n' hn h := ⟨h.files, h.state, by rw [h.notices, hn], h.calls⟩
  write _ _ t _ h := ⟨rfl, h.state, h.notices, h.calls⟩
  issue q := by
    intro s s' h
    obtain ⟨files, state, calls, notices⟩ := s
    obtain ⟨files', state', calls', notices'⟩ := s'
    obtain ⟨rfl, rfl, rfl, keys, hcalls, hcalls'⟩ := h
    simp only at hcalls hcalls'
    -- one reply serves both runs
    have hreply := hr (q.command node) payload payload' files state
    refine ⟨Run.matching_eq_iff.mpr (congrArg Reply.answer hreply), congrArg Reply.files hreply,
      congrArg Reply.state hreply, congrArg (notices ++ Reply.notices ·) hreply,
      keys ++ [q], ?_, ?_⟩
    · simp only [Run.issue, hcalls, List.map_append, List.append_assoc]
      rfl
    · simp only [Run.issue, hcalls', List.map_append, List.append_assoc]
      rfl

theorem Provisioner.input_of_buildCall {p : Provisioner} {build : List Call}
    (h : build <+: p.buildCall?.toList) : ∀ c ∈ build, c.input = none := by
  intro c hc
  have hmem := Option.mem_toList.mp (h.subset hc)
  unfold buildCall? at hmem
  split at hmem
  · cases hmem
  · obtain ⟨_, -, rfl⟩ := Option.map_eq_some_iff.mp hmem
    rfl

/-! ## Top theorem -/

/-- **The password reaches only standard input.**  Runs with two passwords end alike and leave the
same behind; their calls are the build, without input, and the same key commands, each with the
password of its run and a line feed. -/
theorem provision_same_but_input {r : Runner σ} (hr : r.IgnoresInput) (p : Provisioner)
    (w w' : Password) (s : Session σ) :
    ∃ x s₁ s₂ build, ∃ keys : List KeyRequest,
      p.provision r w s = (x, s₁) ∧ p.provision r w' s = (x, s₂) ∧
      s₁.files = s₂.files ∧ s₁.state = s₂.state ∧ s₁.notices = s₂.notices ∧
      build <+: p.buildCall?.toList ∧ (∀ c ∈ build, c.input = none) ∧
      s₁.calls = s.calls ++ build ++ keys.map (KeyRequest.call p.node (w.text ++ "\n")) ∧
      s₂.calls = s.calls ++ build ++ keys.map (KeyRequest.call p.node (w'.text ++ "\n")) := by
  obtain ⟨build, hbuild, hcalls⟩ := p.prepare_calls r s
  have hinput := Provisioner.input_of_buildCall hbuild
  rw [p.provision_eq_prepare, p.provision_eq_prepare]
  rcases hprepare : p.prepare r s with ⟨x, s₀⟩
  rw [hprepare] at hcalls
  cases x with
  | error e =>
    rw [Run.bind_error hprepare, Run.bind_error hprepare]
    refine ⟨.error e, s₀, s₀, build, [], rfl, rfl, rfl, rfl, rfl, hbuild, hinput, ?_, ?_⟩
    · rw [List.map_nil, List.append_nil, hcalls]
    · rw [List.map_nil, List.append_nil, hcalls]
  | ok u =>
    rw [Run.bind_ok hprepare, Run.bind_ok hprepare]
    have hB := Session.SameBut.bond hr s₀.calls p.node w.payload w'.payload
    have hcomplete : Run.Alike (Session.SameBut s₀.calls p.node w.payload w'.payload) Eq
        (p.complete r w) (p.complete r w') := by
      refine (Provisioner.alike_runRounds p p hB (Provisioner.alike_generate hB)
        (Provisioner.alike_insert hB) (k := 0) (fun i => rfl) 1 _).bind
        fun rounds rounds' h => Run.alike_pure ?_
      rw [h, RoundReport.later_zero, List.map_id]
    obtain ⟨x, s₁, s₂, hrun, hrun', hend⟩ := hcomplete.ends (.refl s₀ _ _ _)
    obtain ⟨keys, hkeys, hkeys'⟩ := hend.calls
    refine ⟨x, s₁, s₂, build, keys, hrun, hrun', hend.files, hend.state, hend.notices, hbuild,
      hinput, ?_, ?_⟩
    · rw [hkeys, hcalls]
      rfl
    · rw [hkeys', hcalls]
      rfl

/-- Two passwords, and a runner whose third command fails, which is the first insertion. -/
theorem provision_same_but_input_failing :
    let p : Provisioner := {
      config := {
        node := { binary := "node" }
        keys := { schemes := [.sr25519, .ecdsa], rounds := 3 }
        tools := { required := [] } }
      environment := ⟨"/", []⟩
      skipBuild := true }
    let w : Password := ⟨"pw", by decide⟩
    let w' : Password := ⟨"other", by decide⟩
    let s : Session (List Answer) := {
      files := {}
      state := [.output "Secret seed: 0xa", .output "none", .failure "exit status: 1" "no"] }
    scripted.IgnoresInput ∧
    ∃ x s₁ s₂ build, ∃ keys : List KeyRequest,
      p.provision scripted w s = (x, s₁) ∧ p.provision scripted w' s = (x, s₂) ∧
      s₁.files = s₂.files ∧ s₁.state = s₂.state ∧ s₁.notices = s₂.notices ∧
      build <+: p.buildCall?.toList ∧ (∀ c ∈ build, c.input = none) ∧
      s₁.calls = build ++ keys.map (KeyRequest.call "node" "pw\n") ∧
      s₂.calls = build ++ keys.map (KeyRequest.call "node" "other\n") := by
  intro p w w' s
  have hnode : p.node = "node" := by decide +kernel
  have h := provision_same_but_input scripted_ignoresInput p w w' s
  rw [hnode] at h
  exact ⟨scripted_ignoresInput, h⟩

end ValidatorKeys
