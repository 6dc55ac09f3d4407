import ValidatorKeys.Proofs.Dialogue.Conduct

/-!
# Runs side by side

Two runs can be compared without saying what either of them does.  `Run.Alike S R m m'` says that
`m` and `m'`, begun in sessions that `S` relates, end in sessions that `S` relates, both with
results that `R` relates or both with the same failure.  It is put together along the runs, one pair
of steps after the other.

    Alike S R m m' and Alike S R' (f a) (f' b) whenever R a b  →  Alike S R' (m >>= f) (m' >>= f')
-/

namespace ValidatorKeys

namespace Run

variable {σ ε ε' α α' β β' : Type}

/-! ## Definitions -/

/-- Two outcomes: results that `R` relates, or one failure. -/
inductive Matching (R : α → β → Prop) : Except ε α → Except ε β → Prop where
  | ok {a : α} {b : β} : R a b → Matching R (.ok a) (.ok b)
  | error (e : ε) : Matching R (.error e) (.error e)

/-- Begun in sessions that `S` relates, the runs end in such sessions, with outcomes that match. -/
def Alike (S : Session σ → Session σ → Prop) (R : α → β → Prop) (m : Run σ ε α)
    (m' : Run σ ε β) : Prop :=
  ∀ s s', S s s' → Matching R (m s).1 (m' s').1 ∧ S (m s).2 (m' s').2

/-! ## Lemmas -/

theorem matching_eq_iff {x y : Except ε α} : Matching Eq x y ↔ x = y := by
  constructor
  · rintro (h | e)
    · rw [h]
    · rfl
  · rintro rfl
    cases x with
    | ok a => exact .ok rfl
    | error e => exact .error e

section

variable {S : Session σ → Session σ → Prop} {R : α → β → Prop} {R' : α' → β' → Prop}

/-- Runs that are alike, with what they end in written out. -/
theorem Alike.ends {m m' : Run σ ε α} (h : Alike S Eq m m') {s s' : Session σ} (hs : S s s') :
    ∃ x s₁ s₁', m s = (x, s₁) ∧ m' s' = (x, s₁') ∧ S s₁ s₁' := by
  obtain ⟨hout, hses⟩ := h s s' hs
  exact ⟨(m s).1, (m s).2, (m' s').2, rfl, Prod.ext (matching_eq_iff.mp hout).symm rfl, hses⟩

theorem alike_pure {a : α} {b : β} (h : R a b) : Alike S R (pure a : Run σ ε α) (pure b) :=
  fun _ _ hs => ⟨.ok h, hs⟩

/-- **Runs in a row stay side by side.** -/
theorem Alike.bind {m : Run σ ε α} {m' : Run σ ε β} {f : α → Run σ ε α'} {f' : β → Run σ ε β'}
    (h : Alike S R m m') (hf : ∀ a b, R a b → Alike S R' (f a) (f' b)) :
    Alike S R' (m >>= f) (m' >>= f') := by
  intro s s' hs
  obtain ⟨hout, hses⟩ := h s s' hs
  rw [bind_apply, bind_apply]
  generalize m s = x at hout hses ⊢
  generalize m' s' = y at hout hses ⊢
  obtain ⟨x, s₁⟩ := x
  obtain ⟨y, s₁'⟩ := y
  cases hout with
  | ok hR => exact hf _ _ hR s₁ s₁' hses
  | error e => exact ⟨.error e, hses⟩

/-- The first results are the same, so both runs go on with one of them. -/
theorem Alike.bind_same {m m' : Run σ ε α} {f : α → Run σ ε α'} {f' : α → Run σ ε β'}
    (h : Alike S Eq m m') (hf : ∀ a, Alike S R' (f a) (f' a)) :
    Alike S R' (m >>= f) (m' >>= f') :=
  h.bind fun a _ hab => hab ▸ hf a

/-- A step of the second run alone, which succeeds and keeps the sessions related. -/
theorem Alike.bind_right {m : Run σ ε α} {m' : Run σ ε α'} {f' : α' → Run σ ε β} {a : α'}
    (hm : ∀ s s', S s s' → ∃ s₁, m' s' = (.ok a, s₁) ∧ S s s₁) (h : Alike S R m (f' a)) :
    Alike S R m (m' >>= f') := by
  intro s s' hs
  obtain ⟨s₁, hm', hs₁⟩ := hm s s' hs
  rw [bind_ok hm']
  exact h s s₁ hs₁

theorem Alike.mapError {m : Run σ ε α} {m' : Run σ ε β} (h : Alike S R m m') (f : ε → ε') :
    Alike S R (mapError f m) (mapError f m') := by
  intro s s' hs
  obtain ⟨hout, hses⟩ := h s s' hs
  unfold Run.mapError
  generalize m s = x at hout hses ⊢
  generalize m' s' = y at hout hses ⊢
  obtain ⟨x, s₁⟩ := x
  obtain ⟨y, s₁'⟩ := y
  cases hout with
  | ok hR => exact ⟨.ok hR, hses⟩
  | error e => exact ⟨.error (f e), hses⟩

end

end Run

end ValidatorKeys
