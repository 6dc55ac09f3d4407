import ValidatorKeys.Proofs.Dialogue.Basic
import ValidatorKeys.Provision.KeyFile

/-!
# Runs that conduct a dialogue

`Run.Conducts` ties a run on a session to a dialogue: the calls that the run adds and its outcome
are those of a transcript whose answers the runner gave, and the files are left as `F` asks for the
records last kept.  It is put together along the run, one step after the other.

    Conducts m d and Conducts (f a) (g b) for every outcome  →  Conducts (m >>= f) (d.bind g)
-/

namespace ValidatorKeys

/-- What `F` says of the files, whatever command is run, stays so. -/
def Runner.Steady {σ : Type} (r : Runner σ) (F : Option (List Record) → FileTree → Prop) : Prop :=
  ∀ kept c i t st, F kept t → F kept (r.run c i t st).files

namespace Run

variable {σ ε ε' α α' β β' : Type}

theorem bind_apply (m : Run σ ε α) (f : α → Run σ ε α') (s : Session σ) :
    (m >>= f) s = match m s with
      | (.ok a, s') => f a s'
      | (.error e, s') => (.error e, s') := by
  show (match m s with | (x, s') => ExceptT.bindCont f x s') = _
  obtain ⟨x, s'⟩ := m s
  cases x <;> rfl

theorem bind_ok {m : Run σ ε α} {f : α → Run σ ε α'} {a : α} {s s' : Session σ}
    (h : m s = (.ok a, s')) : (m >>= f) s = f a s' := by
  rw [bind_apply, h]

theorem bind_error {m : Run σ ε α} {e : ε} {s s' : Session σ} (h : m s = (.error e, s'))
    (f : α → Run σ ε α') : (m >>= f) s = (.error e, s') := by
  rw [bind_apply, h]

theorem note_bind (n : Notice) (f : Unit → Run σ ε α) (s : Session σ) :
    (note n >>= f) s = f () { s with notices := s.notices ++ [n] } := by
  rw [bind_apply]
  rfl

theorem ok_of_bind_ok {m : Run σ ε α} {f : α → Run σ ε α'} {b : α'} {s s' : Session σ}
    (h : (m >>= f) s = (.ok b, s')) : ∃ a s₁, m s = (.ok a, s₁) ∧ f a s₁ = (.ok b, s') := by
  rw [bind_apply] at h
  rcases hm : m s with ⟨x, s₁⟩
  rw [hm] at h
  cases x with
  | ok a => exact ⟨a, s₁, rfl, h⟩
  | error e => cases h

theorem mapError_ok {m : Run σ ε α} {a : α} {s s' : Session σ} (h : m s = (.ok a, s'))
    (f : ε → ε') : mapError f m s = (.ok a, s') := by
  rw [mapError, h]

theorem ok_of_mapError_ok {m : Run σ ε α} {f : ε → ε'} {a : α} {s s' : Session σ}
    (h : mapError f m s = (.ok a, s')) : m s = (.ok a, s') := by
  unfold mapError at h
  rcases hm : m s with ⟨x, s₁⟩
  rw [hm] at h
  cases x with
  | ok b =>
    cases h
    rfl
  | error e => cases h

/-- The run `m` on the session `s` goes as the dialogue `d` may go, when the records `kept₀` were
kept before. -/
def Conducts (r : Runner σ) (F : Option (List Record) → FileTree → Prop) (fail : RunError → ε)
    (m : Run σ ε α) (d : Dialogue β) (R : α → β → Option (List Record) → Prop)
    (kept₀ : Option (List Record)) (s : Session σ) : Prop :=
  ∃ log y kept, Transcript d log y kept ∧ Asked r s.state log (m s).2.state ∧
    (m s).2.calls = s.calls ++ log.map Exchange.call ∧ F (kept.or kept₀) (m s).2.files ∧
    match y with
    | .ok b => ∃ a, (m s).1 = .ok a ∧ R a b (kept.or kept₀)
    | .error e => (m s).1 = .error (fail e)

section

variable {r : Runner σ} {F : Option (List Record) → FileTree → Prop} {fail : RunError → ε}
  {R : α → β → Option (List Record) → Prop} {kept₀ : Option (List Record)} {s : Session σ}

theorem conducts_pure {a : α} {b : β} (hF : F kept₀ s.files) (hR : R a b kept₀) :
    Conducts r F fail (pure a) (.done b) R kept₀ s :=
  ⟨[], .ok b, none, .done b, .nil _, (List.append_nil _).symm, hF, a, rfl, hR⟩

theorem conducts_issue (hst : r.Steady F) (hF : F kept₀ s.files) (c : Command)
    (i : Option String) :
    Conducts r F (fun e => e) (issue r c i) (.ask ⟨c, i⟩ .done)
      (fun a b kept => a = b ∧ kept = kept₀) kept₀ s := by
  have hfiles := hst kept₀ c i s.files s.state hF
  have hasked : Asked r s.state [⟨⟨c, i⟩, (r.run c i s.files s.state).answer⟩]
      (issue r c i s).2.state := .cons ⟨c, i⟩ s.files (.nil _)
  cases h : (r.run c i s.files s.state).answer with
  | ok o =>
    rw [h] at hasked
    exact ⟨_, .ok o, none, .answered (.done o), hasked, rfl, hfiles, o, h, rfl, rfl⟩
  | error e =>
    rw [h] at hasked
    exact ⟨_, .error e, none, .failed _ _ e, hasked, rfl, hfiles, h⟩

theorem Conducts.mapError {m : Run σ ε α} {d : Dialogue β} (f : ε → ε')
    (h : Conducts r F fail m d R kept₀ s) :
    Conducts r F (fun e => f (fail e)) (mapError f m) d R kept₀ s := by
  obtain ⟨log, y, kept, ht, ha, hc, hF, hy⟩ := h
  unfold Conducts Run.mapError
  rcases hms : m s with ⟨x, s'⟩
  rw [hms] at ha hc hF hy
  cases y with
  | ok b =>
    obtain ⟨a, hm, hR⟩ := hy
    cases hm
    exact ⟨log, .ok b, kept, ht, ha, hc, hF, a, rfl, hR⟩
  | error e =>
    cases hy
    exact ⟨log, .error e, kept, ht, ha, hc, hF, rfl⟩

/-- **Runs in a row conduct dialogues in a row.** -/
theorem Conducts.bind {m : Run σ ε α} {d : Dialogue β} {f : α → Run σ ε α'}
    {g : β → Dialogue β'} {R' : α' → β' → Option (List Record) → Prop}
    (h : Conducts r F fail m d R kept₀ s)
    (hf : ∀ a b kept s', R a b kept → F kept s'.files →
      Conducts r F fail (f a) (g b) R' kept s') :
    Conducts r F fail (m >>= f) (d.bind g) R' kept₀ s := by
  obtain ⟨log, y, kept, ht, ha, hc, hF, hy⟩ := h
  unfold Conducts
  rw [bind_apply]
  rcases hms : m s with ⟨x, s₁⟩
  rw [hms] at ha hc hF hy
  cases y with
  | error e =>
    cases hy
    exact ⟨log, .error e, kept, ht.bind_error g, ha, hc, hF, rfl⟩
  | ok b =>
    obtain ⟨a, hm, hR⟩ := hy
    cases hm
    obtain ⟨log', y', kept', ht', ha', hc', hF', hy'⟩ := hf a b _ s₁ hR hF
    refine ⟨log ++ log', y', kept'.or kept, ht.bind_ok ht', ha.append ha', ?_, ?_, ?_⟩
    · rw [hc', hc, List.map_append, List.append_assoc]
    · rwa [Option.or_assoc]
    · rwa [Option.or_assoc]

/-- What a run that came to its end has conducted. -/
theorem Conducts.of_ok {m : Run σ ε α} {d : Dialogue β} {a : α} {s' : Session σ}
    (h : Conducts r F fail m d R kept₀ s) (hm : m s = (.ok a, s')) :
    ∃ log b kept, Transcript d log (.ok b) kept ∧ Asked r s.state log s'.state ∧
      s'.calls = s.calls ++ log.map Exchange.call ∧ F (kept.or kept₀) s'.files ∧
      R a b (kept.or kept₀) := by
  obtain ⟨log, y, kept, ht, ha, hc, hF, hy⟩ := h
  rw [hm] at ha hc hF hy
  cases y with
  | ok b =>
    obtain ⟨a', ha', hR⟩ := hy
    cases ha'
    exact ⟨log, b, kept, ht, ha, hc, hF, hR⟩
  | error e => cases hy

/-- A run comes to its end when every command that it may issue succeeds. -/
theorem Conducts.ok_of_answers {m : Run σ ε α} {d : Dialogue β}
    (h : Conducts r F fail m d R kept₀ s)
    (hall : ∀ log st, Asked r s.state log st → ∀ x ∈ log, ∃ o, x.answer = .ok o) :
    ∃ a s' log b kept, m s = (.ok a, s') ∧ Transcript d log (.ok b) kept ∧
      s'.calls = s.calls ++ log.map Exchange.call ∧ R a b (kept.or kept₀) := by
  obtain ⟨log, y, kept, ht, ha, hc, -, hy⟩ := h
  cases y with
  | ok b =>
    obtain ⟨a, hm, hR⟩ := hy
    exact ⟨a, _, log, b, kept, Prod.ext hm rfl, ht, hc, hR⟩
  | error e =>
    obtain ⟨before, x, rfl, -⟩ := ht.answers_of_error
    obtain ⟨o, ho⟩ := hall _ _ ha ⟨x, .error e⟩ (by simp)
    cases ho

/-- A step that leaves notices and nothing else is no part of a dialogue. -/
theorem conducts_notices_bind {m : Run σ ε α'} {f : α' → Run σ ε α} {a : α'}
    {notices : List Notice} (hm : m s = (.ok a, { s with notices := notices })) {d : Dialogue β}
    (h : Conducts r F fail (f a) d R kept₀ { s with notices := notices }) :
    Conducts r F fail (m >>= f) d R kept₀ s := by
  unfold Conducts
  rw [bind_ok hm]
  exact h

theorem conducts_note_bind {n : Notice} {f : Unit → Run σ ε α} {d : Dialogue β}
    (h : Conducts r F fail (f ()) d R kept₀ { s with notices := s.notices ++ [n] }) :
    Conducts r F fail (note n >>= f) d R kept₀ s :=
  conducts_notices_bind rfl h

theorem conducts_ask (hst : r.Steady F) (hF : F kept₀ s.files) (c : Command) (i : Option String)
    {f : String → Run σ ε α} {next : String → Dialogue β}
    (h : ∀ o s', F kept₀ s'.files → Conducts r F fail (f o) (next o) R kept₀ s') :
    Conducts r F fail (Run.mapError fail (issue r c i) >>= f) (.ask ⟨c, i⟩ next) R kept₀ s := by
  refine ((conducts_issue hst hF c i).mapError fail).bind (g := next) fun a b kept s' hR hF' => ?_
  obtain ⟨rfl, rfl⟩ := hR
  exact h a s' hF'

/-- What is kept when a dialogue begins is overruled by what it keeps later. -/
theorem Conducts.keep {m : Run σ ε α} {d : Dialogue β} {records : List Record}
    (h : Conducts r F fail m d R (some records) s) :
    Conducts r F fail m (.keep records d) R kept₀ s := by
  obtain ⟨log, y, kept, ht, ha, hc, hF, hy⟩ := h
  have hkept : (kept.or (some records)).or kept₀ = kept.or (some records) := by
    rw [Option.or_assoc, Option.some_or]
  refine ⟨log, y, kept.or (some records), .keep ht, ha, hc, ?_, ?_⟩
  · rwa [hkept]
  · rwa [hkept]

theorem conducts_changeFiles_bind {fail : RunError → PassError}
    {f : FileTree → Except KeyFileError (α' × FileTree)} {a : α'} {t : FileTree}
    (hf : f s.files = .ok (a, t)) {g : α' → Run σ PassError α} {d : Dialogue β}
    (h : Conducts r F fail (g a) d R kept₀ { s with files := t }) :
    Conducts r F fail (changeFiles f >>= g) d R kept₀ s := by
  have happly : (changeFiles f : Run σ PassError α') s = (.ok a, { s with files := t }) := by
    unfold changeFiles
    rw [hf]
  unfold Conducts
  rw [bind_ok happly]
  exact h

theorem conducts_onFiles_bind {f : FileTree → Except ε' α'} {a : α'} (hf : f s.files = .ok a)
    {e : ε' → ε} {g : α' → Run σ ε α} {d : Dialogue β}
    (h : Conducts r F fail (g a) d R kept₀ s) :
    Conducts r F fail (Run.mapError e (onFiles f) >>= g) d R kept₀ s := by
  have happly : Run.mapError e (onFiles f : Run σ ε' α') s = (.ok a, s) := by
    unfold Run.mapError onFiles
    rw [hf]
  unfold Conducts
  rw [bind_ok happly]
  exact h

end

end Run

end ValidatorKeys
