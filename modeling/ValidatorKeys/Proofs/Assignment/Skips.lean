import ValidatorKeys.Proofs.Assignment.Commands

/-!
# Skips are justified and final

The tokens handed out only grow along a pass, so what a scheme can still give only shrinks.  A
scheme that had nothing for one binding has nothing for those after it, and under `advance` it had
nothing because each token of its lines was handed out.

    selectToken lines s c policy = none  ↔  every token considered for s is in c
    (assign policy lines bs c).Pairwise SkipLasts
-/

namespace ValidatorKeys

/-! ## Definitions -/

/-- The entries that a binding of the scheme may receive: all of them under `advance`, and else the
first one at most. -/
def considered (lines : List (List Char)) (s : Scheme) : ConflictPolicy → List (Option Token)
  | .advance => candidates lines s
  | .firstMatchOnly => (candidates lines s).take 1

/-- If the first of two bindings of one scheme is skipped, so is the second. -/
def Assignment.SkipLasts (a b : Assignment) : Prop :=
  a.binding.scheme = b.binding.scheme → a.token = none → b.token = none

/-! ## Selection -/

theorem selectToken_eq_findSome? (lines : List (List Char)) (s : Scheme) (c : Consumed)
    (policy : ConflictPolicy) :
    selectToken lines s c policy =
      (considered lines s policy).findSome? fun t? => t?.filter fun t => !c.contains t := by
  cases policy with
  | advance => rfl
  | firstMatchOnly =>
    unfold selectToken considered
    cases candidates lines s with
    | nil => rfl
    | cons t? _ => rw [List.take_one, List.head?_cons, Option.toList_some, List.findSome?_singleton,
        Option.bind_some]

/-- **Nothing is selected exactly when everything considered was handed out.** -/
theorem selectToken_eq_none_iff (lines : List (List Char)) (s : Scheme) (c : Consumed)
    (policy : ConflictPolicy) :
    selectToken lines s c policy = none ↔
      ∀ t, some t ∈ considered lines s policy → t ∈ c.tokens := by
  rw [selectToken_eq_findSome?, List.findSome?_eq_none_iff]
  constructor
  · intro h t ht
    have := h (some t) ht
    rw [Option.filter_some] at this
    simpa [Consumed.contains] using this
  · intro h t? ht
    cases t? with
    | none => rfl
    | some t => simp [Option.filter_some, Consumed.contains, h t ht]

theorem selectToken_eq_none_of_subset {lines : List (List Char)} {s : Scheme} {c c' : Consumed}
    {policy : ConflictPolicy} (hc : c.tokens ⊆ c'.tokens)
    (h : selectToken lines s c policy = none) : selectToken lines s c' policy = none := by
  rw [selectToken_eq_none_iff] at h ⊢
  exact fun t ht => hc (h t ht)

theorem Consumed.subset_insert (c : Consumed) (t : Token) : c.tokens ⊆ (c.insert t).tokens :=
  fun u hu => (c.mem_tokens_insert t u).mpr (Or.inl hu)

/-! ## Assignments -/

section

variable {policy : ConflictPolicy} {lines : List (List Char)} {b : Binding} {rest : List Binding}
  {c : Consumed}

/-- A skipped binding leaves all that is handed out by the end to those after it. -/
theorem tokens_assign_of_skipped (h : selectToken lines b.scheme c policy = none) :
    c.tokens ++ Assignment.tokens (assign policy lines (b :: rest) c) =
      c.tokens ++ Assignment.tokens (assign policy lines rest c) := by
  rw [assign, h]
  rfl

/-- A token is handed out once its binding has received it. -/
theorem tokens_assign_of_selected {t : Token}
    (h : selectToken lines b.scheme c policy = some t) :
    c.tokens ++ Assignment.tokens (assign policy lines (b :: rest) c) =
      (c.insert t).tokens ++ Assignment.tokens (assign policy lines rest (c.insert t)) := by
  rw [assign, h, c.tokens_insert_of_not_mem t (mem_of_selectToken _ _ _ _ _ h).2,
    List.append_assoc]
  rfl

end

/-- A scheme that has nothing at the start of a pass has nothing throughout. -/
theorem token_eq_none_of_selectToken {lines : List (List Char)} {s : Scheme}
    {policy : ConflictPolicy} {bs : List Binding} {c : Consumed}
    (h : selectToken lines s c policy = none) :
    ∀ a ∈ assign policy lines bs c, a.binding.scheme = s → a.token = none := by
  induction bs generalizing c with
  | nil => simp [assign]
  | cons b rest ih =>
    intro a ha hs
    rw [assign] at ha
    cases hsel : selectToken lines b.scheme c policy with
    | none =>
      rw [hsel] at ha
      rcases List.mem_cons.mp ha with rfl | ha
      · rfl
      · exact ih h a ha hs
    | some t =>
      rw [hsel] at ha
      rcases List.mem_cons.mp ha with rfl | ha
      · -- the binding received a token, so its scheme is another one
        subst hs
        rw [h] at hsel
        cases hsel
      · exact ih (selectToken_eq_none_of_subset (c.subset_insert t) h) a ha hs

/-- **A skip is final** for its scheme. -/
theorem assign_pairwise_skipLasts (policy : ConflictPolicy) (lines : List (List Char))
    (bs : List Binding) (c : Consumed) :
    (assign policy lines bs c).Pairwise Assignment.SkipLasts := by
  induction bs generalizing c with
  | nil => exact .nil
  | cons b rest ih =>
    rw [assign]
    cases hsel : selectToken lines b.scheme c policy with
    | none =>
      refine List.pairwise_cons.mpr ⟨fun a ha hs _ => ?_, ih c⟩
      exact token_eq_none_of_selectToken hsel a ha hs.symm
    | some t =>
      refine List.pairwise_cons.mpr ⟨fun a _ _ hnone => ?_, ih (c.insert t)⟩
      cases hnone

/-- **A skip is justified**: what was considered for the binding is handed out by the end. -/
theorem mem_tokens_of_skipped {policy : ConflictPolicy} {lines : List (List Char)}
    {bs : List Binding} {c : Consumed} {a : Assignment} (ha : a ∈ assign policy lines bs c)
    (hnone : a.token = none) {t : Token} (ht : some t ∈ considered lines a.binding.scheme policy) :
    t ∈ c.tokens ++ Assignment.tokens (assign policy lines bs c) := by
  induction bs generalizing c with
  | nil => simp [assign] at ha
  | cons b rest ih =>
    cases hsel : selectToken lines b.scheme c policy with
    | none =>
      rw [tokens_assign_of_skipped hsel]
      rw [assign, hsel] at ha
      rcases List.mem_cons.mp ha with rfl | ha
      · exact List.mem_append_left _ ((selectToken_eq_none_iff ..).mp hsel t ht)
      · exact ih ha
    | some u =>
      rw [tokens_assign_of_selected hsel]
      rw [assign, hsel] at ha
      rcases List.mem_cons.mp ha with rfl | ha
      · cases hnone
      · exact ih ha

/-- Where skips are final, the bindings of a scheme that are inserted stand before those that are
skipped. -/
theorem Assignment.filter_binding_eq {as : List Assignment} (h : as.Pairwise SkipLasts)
    (s : Scheme) :
    (as.map Assignment.binding).filter (fun b => b.scheme = s) =
      ((report as).inserted.map InsertedKey.binding).filter (fun b => b.scheme = s) ++
        (report as).skipped.filter fun b => b.scheme = s := by
  rw [map_binding_inserted, skipped_eq]
  induction h with
  | nil => rfl
  | @cons a as hlater _ ih =>
    obtain ⟨b, t?⟩ := a
    by_cases hs : b.scheme = s
    · cases t? with
      | some t => simp [hs, ih]
      | none =>
        have hrest : ((as.filter fun a => a.token.isSome).map Assignment.binding).filter
            (fun b => b.scheme = s) = [] := by
          rw [List.filter_eq_nil_iff]
          intro b' hb' hs'
          obtain ⟨a, ha, rfl⟩ := List.mem_map.mp hb'
          obtain ⟨ha, hsome⟩ := List.mem_filter.mp ha
          rw [hlater a ha (hs.trans (of_decide_eq_true hs').symm) rfl] at hsome
          cases hsome
        rw [hrest] at ih
        simp [hs, ih, hrest]
    · cases t? with
      | some t => simp [hs, ih]
      | none => simp [hs, ih]

/-! ## Top theorem -/

/-- **Skips are justified and final**, in every pass that came to its end.  A binding that is
skipped leaves nothing to those of its scheme after it, and under `advance` there is no token left
in the lines of its scheme. -/
theorem insertLines_skips_final {σ : Type} {r : Runner σ} {node : String}
    {policy : ConflictPolicy} {password : Password} {lines : List (List Char)}
    {bs : List Binding} {c c' : Consumed} {report : InsertReport} {s s' : Session σ}
    (h : insertLines r node policy password lines bs c s = (.ok (report, c'), s')) :
    let as := assign policy lines bs c
    as.map Assignment.binding = bs ∧ report = Assignment.report as ∧
    c'.tokens = c.tokens ++ Assignment.tokens as ∧
    as.Pairwise Assignment.SkipLasts ∧
    (∀ sch, (bs.filter fun b => b.scheme = sch) =
      (report.inserted.map InsertedKey.binding).filter (fun b => b.scheme = sch) ++
        report.skipped.filter fun b => b.scheme = sch) ∧
    (policy = .advance → ∀ b ∈ report.skipped, ∀ line ∈ lines, b.scheme.label <+: line →
      ∀ t, Token.extract line = some t → t ∈ c'.tokens) := by
  intro as
  obtain ⟨rfl, hc'⟩ := insertLines_ok h
  have hbinding := map_binding_assign policy lines bs c
  have hfinal := assign_pairwise_skipLasts policy lines bs c
  refine ⟨hbinding, rfl, hc', hfinal, fun sch => ?_, ?_⟩
  · rw [← Assignment.filter_binding_eq hfinal sch, hbinding]
  · rintro rfl b hb line hline hlabel t ht
    rw [Assignment.skipped_eq] at hb
    obtain ⟨a, ha, rfl⟩ := List.mem_map.mp hb
    obtain ⟨ha, hnone⟩ := List.mem_filter.mp ha
    rw [hc']
    refine mem_tokens_of_skipped ha (Option.isNone_iff_eq_none.mp hnone) ?_
    exact (some_mem_candidates_iff ..).mpr ⟨line, hline, hlabel, ht⟩

/-- A scheme whose only token goes to another one, and a token consumed before the pass. -/
theorem insertLines_skips_final_shared_token :
    let shared : Token := ⟨"0xa".toList, by decide⟩
    let spent : Token := ⟨"0xb".toList, by decide⟩
    let lines := ["sr25519: Secret seed: 0xa".toList, "sr25519: secret seed".toList,
      "ed25519: Secret seed: 0xa".toList, "sr25519: Secret seed: 0xb".toList]
    let password : Password := ⟨"pw", by decide⟩
    let as := assign .advance lines defaultBindings ⟨[spent]⟩
    ∃ report c' s', insertLines Runner.silent "node" .advance password lines defaultBindings
        ⟨[spent]⟩ { files := {}, state := () } = (.ok (report, c'), s') ∧
      as.Pairwise Assignment.SkipLasts ∧ report.skipped = defaultBindings.tail ∧
      c'.tokens = [spent, shared] ∧
      ∀ b ∈ report.skipped, ∀ line ∈ lines, b.scheme.label <+: line →
        ∀ t, Token.extract line = some t → t ∈ c'.tokens := by
  intro shared spent lines password as
  obtain ⟨s', hrun, -⟩ := insertLines_of_alwaysAnswers Runner.silent Runner.silent_alwaysAnswers
    "node" .advance password lines defaultBindings ⟨[spent]⟩ { files := {}, state := () }
  obtain ⟨-, -, -, hfinal, -, hjustified⟩ := insertLines_skips_final hrun
  exact ⟨_, _, s', hrun, hfinal, by decide +kernel, by decide +kernel, hjustified rfl⟩

end ValidatorKeys
