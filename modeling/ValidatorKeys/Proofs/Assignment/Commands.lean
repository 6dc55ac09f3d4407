import ValidatorKeys.Proofs.Assignment.Basic
import ValidatorKeys.Proofs.Dialogue.Conduct

/-!
# The commands of an insertion pass

An insertion pass asks for the commands of its assignments and nothing else, so it goes as the
dialogue `askAll` of their calls.  When every command succeeds, so does the pass.

    insertKeys r … bs c  conducts  askAll (Assignment.calls node payload (assign policy lines bs c))
-/

namespace ValidatorKeys

variable {σ : Type}

theorem Transcript.calls_askAll {cs : List Call} {log : List Exchange}
    {kept : Option (List Record)} (h : Transcript (Dialogue.askAll cs) log (.ok ()) kept) :
    log.map Exchange.call = cs ∧ kept = none := by
  induction cs generalizing log with
  | nil =>
    cases h with
    | done => exact ⟨rfl, rfl⟩
  | cons c cs ih =>
    cases h with
    | answered h =>
      obtain ⟨hlog, hk⟩ := ih h
      exact ⟨congrArg (c :: ·) hlog, hk⟩

section

variable {r : Runner σ} {F : Option (List Record) → FileTree → Prop} (hst : r.Steady F)
  {kept₀ : Option (List Record)} {s : Session σ}

include hst

theorem insertAssigned_conducts (node payload : String) (as : List Assignment)
    (hF : F kept₀ s.files) :
    Run.Conducts r F PassError.run (insertAssigned r node payload as)
      (Dialogue.askAll (Assignment.calls node payload as)) (fun _ _ kept => kept = kept₀)
      kept₀ s := by
  induction as generalizing s with
  | nil => exact Run.conducts_pure hF rfl
  | cons a rest ih =>
    obtain ⟨b, t?⟩ := a
    cases t? with
    | none => exact Run.conducts_note_bind (ih hF)
    | some t =>
      refine Run.conducts_note_bind ?_
      refine Run.conducts_ask hst ?_ (insertCommand node b) (some payload) fun _ _ hF' => ih hF'
      exact hF

theorem insertKeys_conducts (node payload : String) (policy : ConflictPolicy)
    (lines : List (List Char)) (bs : List Binding) (c : Consumed) (hF : F kept₀ s.files) :
    Run.Conducts r F PassError.run (insertKeys r node payload policy lines bs c)
      (Dialogue.askAll (Assignment.calls node payload (assign policy lines bs c)))
      (fun x _ kept => x = (Assignment.report (assign policy lines bs c),
        c.insertAll (Assignment.tokens (assign policy lines bs c))) ∧ kept = kept₀) kept₀ s := by
  rw [insertKeys_eq]
  rw [← Dialogue.bind_done (Dialogue.askAll _)]
  refine (insertAssigned_conducts hst node payload _ hF).bind fun _ _ kept s' hk hF' => ?_
  exact Run.conducts_pure hF' ⟨rfl, hk⟩

end

/-- **A pass whose commands succeed comes to its end**, with one call for each assigned token. -/
theorem insertLines_of_alwaysAnswers (r : Runner σ) (hr : r.AlwaysAnswers) (node : String)
    (policy : ConflictPolicy) (password : Password) (lines : List (List Char))
    (bs : List Binding) (c : Consumed) (s : Session σ) :
    ∃ s', insertLines r node policy password lines bs c s =
        (.ok (Assignment.report (assign policy lines bs c),
          c.insertAll (Assignment.tokens (assign policy lines bs c))), s') ∧
      s'.calls = s.calls ++ Assignment.calls node password.payload (assign policy lines bs c) := by
  have hconducts : Run.Conducts r (fun _ _ => True) PassError.run
      (insertKeys r node password.payload policy lines bs c) _ _ none s :=
    insertKeys_conducts (fun _ _ _ _ _ _ => trivial) node password.payload policy lines bs c
      trivial
  obtain ⟨x, s', log, _, kept, hm, ht, hc, rfl, -⟩ :=
    hconducts.ok_of_answers fun _ _ ha => ha.answers hr
  rw [ht.calls_askAll.1] at hc
  exact ⟨s', hm, hc⟩

/-- An insertion pass over a key file that can be read comes to its end when its commands
succeed. -/
theorem insertionPass_of_alwaysAnswers {r : Runner σ} (hr : r.AlwaysAnswers)
    {cwd path : String} {s : Session σ} {lines : List (List Char)}
    (hlines : KeyFile.readLines s.files cwd path = .ok lines) (node : String)
    (policy : ConflictPolicy) (password : Password) (bs : List Binding) :
    ∃ s', insertionPass r cwd node policy password path bs s =
      (.ok (Assignment.report (assign policy lines bs {})), s') := by
  have hread : (Run.onFiles fun t => KeyFile.readLines t cwd path) s = (.ok lines, s) := by
    rw [Run.onFiles, hlines]
  obtain ⟨s', hinsert, -⟩ := insertLines_of_alwaysAnswers r hr node policy password lines bs {} s
  unfold insertionPass
  rw [Run.bind_ok (Run.mapError_ok hread _), Run.bind_ok hinsert]
  exact ⟨_, rfl⟩

/-- A pass that came to its end reports its assignments, whatever the commands answered. -/
theorem insertLines_ok {r : Runner σ} {node : String} {policy : ConflictPolicy}
    {password : Password} {lines : List (List Char)} {bs : List Binding} {c c' : Consumed}
    {report : InsertReport} {s s' : Session σ}
    (h : insertLines r node policy password lines bs c s = (.ok (report, c'), s')) :
    report = Assignment.report (assign policy lines bs c) ∧
      c'.tokens = c.tokens ++ Assignment.tokens (assign policy lines bs c) := by
  unfold insertLines at h
  rw [insertKeys_eq] at h
  obtain ⟨_, s₁, -, h⟩ := Run.ok_of_bind_ok h
  cases h
  exact ⟨rfl, tokens_insertAll_assign policy lines bs c⟩

end ValidatorKeys
