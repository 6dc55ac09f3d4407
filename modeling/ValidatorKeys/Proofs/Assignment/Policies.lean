import Mathlib.Data.List.Perm.Subperm
import ValidatorKeys.Proofs.Assignment.Skips

/-!
# The two policies side by side

Under `firstMatchOnly` a scheme has one token to give, that of the first of its lines.  Where this
token is handed out, a pass under `advance` over the same bindings hands it out no later: unless it
went to another binding before, it is the first in line.  The two passes may serve different
bindings, so what is compared are the tokens.

    tokens (assign .firstMatchOnly lines bs c) ⊆ tokens (assign .advance lines bs c)
    inserted of s under firstMatchOnly <+: the first binding of s
-/

namespace ValidatorKeys

/-! ## Lemmas -/

/-- Under `firstMatchOnly` a token is selected from the first line of the scheme. -/
theorem head?_of_selectToken_firstMatchOnly {lines : List (List Char)} {s : Scheme} {c : Consumed}
    {t : Token} (h : selectToken lines s c .firstMatchOnly = some t) :
    (candidates lines s).head? = some (some t) := by
  obtain ⟨t?, hhead, hfree⟩ := Option.bind_eq_some_iff.mp h
  rw [hhead, (Option.filter_eq_some_iff.mp hfree).1]

/-- The token of the first line of a scheme is handed out already or is selected under
`advance`. -/
theorem selectToken_advance_of_head? {lines : List (List Char)} {s : Scheme} {t : Token}
    (h : (candidates lines s).head? = some (some t)) (c : Consumed) :
    t ∈ c.tokens ∨ selectToken lines s c .advance = some t := by
  by_cases ht : t ∈ c.tokens
  · exact Or.inl ht
  · obtain ⟨rest, hrest⟩ := List.head?_eq_some_iff.mp h
    refine Or.inr ?_
    rw [selectToken, hrest, List.findSome?_cons, Option.filter_some]
    simp [Consumed.contains, ht]

/-- A step under `advance` sees to the token of the first line, whether or not it selects it. -/
theorem exists_tokens_assign_advance (lines : List (List Char)) (b : Binding)
    (rest : List Binding) (c : Consumed) :
    ∃ c₁ : Consumed, c.tokens ++ Assignment.tokens (assign .advance lines (b :: rest) c) =
        c₁.tokens ++ Assignment.tokens (assign .advance lines rest c₁) ∧
      ∀ t, (candidates lines b.scheme).head? = some (some t) → t ∈ c₁.tokens := by
  cases hsel : selectToken lines b.scheme c .advance with
  | none =>
    refine ⟨c, tokens_assign_of_skipped hsel, fun t ht => ?_⟩
    rcases selectToken_advance_of_head? ht c with h | h
    · exact h
    · rw [hsel] at h
      cases h
  | some u =>
    refine ⟨c.insert u, tokens_assign_of_selected hsel, fun t ht => ?_⟩
    rcases selectToken_advance_of_head? ht c with h | h
    · exact c.subset_insert u h
    · rw [hsel] at h
      cases h
      exact (c.mem_tokens_insert u u).mpr (Or.inr rfl)

/-- **What `firstMatchOnly` hands out, `advance` does too**, unless it was handed out before.  The
two passes need not begin with the same tokens. -/
theorem tokens_firstMatchOnly_subset (lines : List (List Char)) (bs : List Binding)
    (c c' : Consumed) :
    Assignment.tokens (assign .firstMatchOnly lines bs c) ⊆
      c'.tokens ++ Assignment.tokens (assign .advance lines bs c') := by
  induction bs generalizing c c' with
  | nil => simp [assign, Assignment.tokens]
  | cons b rest ih =>
    obtain ⟨c₁, heq, hhead⟩ := exists_tokens_assign_advance lines b rest c'
    rw [heq, assign]
    cases hsel : selectToken lines b.scheme c .firstMatchOnly with
    | none => exact ih c c₁
    | some t =>
      intro u hu
      rcases List.mem_cons.mp hu with rfl | hu
      · exact List.mem_append_left _ (hhead u (head?_of_selectToken_firstMatchOnly hsel))
      · exact ih (c.insert t) c₁ hu

/-- Once a scheme gave its token, it has nothing left under `firstMatchOnly`. -/
theorem selectToken_insert_firstMatchOnly {lines : List (List Char)} {s : Scheme} {c : Consumed}
    {t : Token} (h : selectToken lines s c .firstMatchOnly = some t) :
    selectToken lines s (c.insert t) .firstMatchOnly = none := by
  obtain ⟨rest, hrest⟩ := List.head?_eq_some_iff.mp (head?_of_selectToken_firstMatchOnly h)
  rw [selectToken_eq_none_iff]
  intro u hu
  rw [considered, hrest, List.take_one, List.head?_cons, Option.toList_some, List.mem_singleton,
    Option.some.injEq] at hu
  exact (c.mem_tokens_insert t u).mpr (Or.inr hu)

/-- Only the first binding of a scheme may receive a token under `firstMatchOnly`. -/
theorem token_eq_none_of_mem_tail (lines : List (List Char)) (bs : List Binding) (c : Consumed)
    (s : Scheme) :
    ∀ a ∈ ((assign .firstMatchOnly lines bs c).filter fun a => a.binding.scheme = s).tail,
      a.token = none := by
  have hnone : ∀ {c : Consumed} {rest : List Binding},
      selectToken lines s c .firstMatchOnly = none →
      ∀ a ∈ (assign .firstMatchOnly lines rest c).filter fun a => a.binding.scheme = s,
        a.token = none := by
    intro c rest h a ha
    obtain ⟨ha, hs⟩ := List.mem_filter.mp ha
    exact token_eq_none_of_selectToken h a ha (of_decide_eq_true hs)
  induction bs generalizing c with
  | nil => simp [assign]
  | cons b rest ih =>
    rw [assign]
    by_cases hs : b.scheme = s
    · subst hs
      cases hsel : selectToken lines b.scheme c .firstMatchOnly with
      | none =>
        simp only [List.filter_cons, decide_true, if_true, List.tail_cons]
        exact hnone hsel
      | some t =>
        simp only [List.filter_cons, decide_true, if_true, List.tail_cons]
        exact hnone (selectToken_insert_firstMatchOnly hsel)
    · cases selectToken lines b.scheme c .firstMatchOnly with
      | none =>
        simp only [List.filter_cons, hs, decide_false, Bool.false_eq_true, if_false]
        exact ih c
      | some t =>
        simp only [List.filter_cons, hs, decide_false, Bool.false_eq_true, if_false]
        exact ih (c.insert t)

/-- **Under `firstMatchOnly` a scheme has its first binding inserted, or none.** -/
theorem inserted_firstMatchOnly_isPrefix (lines : List (List Char)) (bs : List Binding)
    (c : Consumed) (s : Scheme) :
    ((Assignment.report (assign .firstMatchOnly lines bs c)).inserted.map
      InsertedKey.binding).filter (fun b => b.scheme = s) <+:
      (bs.filter fun b => b.scheme = s).take 1 := by
  have hsplit := Assignment.filter_binding_eq
    (assign_pairwise_skipLasts .firstMatchOnly lines bs c) s
  rw [map_binding_assign] at hsplit
  refine List.prefix_take_iff.mpr ⟨hsplit ▸ List.prefix_append _ _, ?_⟩
  have htail := token_eq_none_of_mem_tail lines bs c s
  rw [Assignment.map_binding_inserted, List.filter_map, List.length_map, List.filter_comm]
  change (List.filter _ ((assign .firstMatchOnly lines bs c).filter
    fun a => a.binding.scheme = s)).length ≤ 1
  cases hs : (assign .firstMatchOnly lines bs c).filter fun a => a.binding.scheme = s with
  | nil => exact Nat.zero_le 1
  | cons a as =>
    rw [hs, List.tail_cons] at htail
    have hnil : as.filter (fun a => a.token.isSome) = [] := by
      rw [List.filter_eq_nil_iff]
      intro a ha
      simp [htail a ha]
    rw [List.filter_cons]
    split <;> simp [hnil]

/-! ## Top theorem -/

/-- **`firstMatchOnly` is dominated by `advance`.**  Whatever tokens the lines of several schemes
share, a pass under `advance` inserts every token that one under `firstMatchOnly` inserts, and so at
least as many keys; under `firstMatchOnly` no scheme has more than its first binding inserted. -/
theorem insertLines_firstMatchOnly_le {σ : Type} (r : Runner σ) (hr : r.AlwaysAnswers)
    (node : String) (password : Password) (lines : List (List Char)) (bs : List Binding)
    (c : Consumed) (s : Session σ) :
    let first := assign .firstMatchOnly lines bs c
    let all := assign .advance lines bs c
    (∃ c₁ s₁, insertLines r node .firstMatchOnly password lines bs c s =
        (.ok (Assignment.report first, c₁), s₁) ∧
      c₁.tokens = c.tokens ++ Assignment.tokens first) ∧
    (∃ c₂ s₂, insertLines r node .advance password lines bs c s =
        (.ok (Assignment.report all, c₂), s₂) ∧
      c₂.tokens = c.tokens ++ Assignment.tokens all) ∧
    Assignment.tokens first ⊆ Assignment.tokens all ∧
    (Assignment.report first).inserted.length ≤ (Assignment.report all).inserted.length ∧
    first.map Assignment.binding = bs ∧
    ∀ sch, (∀ a ∈ (first.filter fun a => a.binding.scheme = sch).tail, a.token = none) ∧
      ((Assignment.report first).inserted.map InsertedKey.binding).filter
        (fun b => b.scheme = sch) <+: (bs.filter fun b => b.scheme = sch).take 1 := by
  intro first all
  obtain ⟨s₁, h₁, -⟩ :=
    insertLines_of_alwaysAnswers r hr node .firstMatchOnly password lines bs c s
  obtain ⟨s₂, h₂, -⟩ := insertLines_of_alwaysAnswers r hr node .advance password lines bs c s
  obtain ⟨hnodup, hfresh⟩ := tokens_assign_fresh .firstMatchOnly lines bs c
  have hsubset : Assignment.tokens first ⊆ Assignment.tokens all := by
    intro t ht
    rcases List.mem_append.mp (tokens_firstMatchOnly_subset lines bs c c ht) with h | h
    · exact absurd h (hfresh t ht)
    · exact h
  refine ⟨⟨_, s₁, h₁, tokens_insertAll_assign ..⟩, ⟨_, s₂, h₂, tokens_insertAll_assign ..⟩,
    hsubset, ?_, map_binding_assign .firstMatchOnly lines bs c, fun sch =>
      ⟨token_eq_none_of_mem_tail lines bs c sch, inserted_firstMatchOnly_isPrefix lines bs c sch⟩⟩
  rw [Assignment.length_inserted, Assignment.length_inserted]
  exact (List.subperm_of_subset hnodup hsubset).length_le

/-- A token in lines of two schemes goes to different bindings, one of which `advance` skips. -/
theorem insertLines_firstMatchOnly_le_shared_token :
    let lines := ["sr25519: Secret seed: 0xa".toList, "sr25519: Secret seed: 0xb".toList,
      "ed25519: Secret seed: 0xb".toList]
    let babe : Binding := ⟨.sr25519, ⟨"babe", by decide⟩⟩
    let imon : Binding := ⟨.sr25519, ⟨"imon", by decide⟩⟩
    let gran : Binding := ⟨.ed25519, ⟨"gran", by decide⟩⟩
    let first := assign .firstMatchOnly lines [babe, imon, gran] {}
    let all := assign .advance lines [babe, imon, gran] {}
    Runner.silent.AlwaysAnswers ∧
      Assignment.tokens first ⊆ Assignment.tokens all ∧
      (Assignment.report first).inserted.length ≤ (Assignment.report all).inserted.length ∧
      (Assignment.report first).inserted.map InsertedKey.binding = [babe, gran] ∧
      (Assignment.report all).inserted.map InsertedKey.binding = [babe, imon] := by
  intro lines babe imon gran first all
  obtain ⟨-, -, hsubset, hlen, -, -⟩ :=
    insertLines_firstMatchOnly_le Runner.silent Runner.silent_alwaysAnswers "node"
      ⟨"pw", by decide⟩ lines [babe, imon, gran] {} { files := {}, state := () }
  exact ⟨Runner.silent_alwaysAnswers, hsubset, hlen, by decide +kernel, by decide +kernel⟩

end ValidatorKeys
