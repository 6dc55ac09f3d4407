import Mathlib.Algebra.GroupWithZero.Nat
import ValidatorKeys.Proofs.Assignment.Commands

/-!
# What a pass under `advance` hands out

When no token stands in lines of two schemes, a pass under `advance` serves each scheme by itself:
its bindings receive its distinct tokens one after the other, until there are no more.

    (assign .advance lines bs {}).filter (· of s) = the k-th binding of s with the k-th of
      distinctTokens lines s
-/

namespace ValidatorKeys

/-! ## Algorithm -/

/-- The tokens of the lines of a scheme, in order; a line without a token has no part in it. -/
def schemeTokens (lines : List (List Char)) (s : Scheme) : List Token :=
  (candidates lines s).filterMap id

/-- The tokens of a scheme, each where it occurs first. -/
def distinctTokens (lines : List (List Char)) (s : Scheme) : List Token :=
  (schemeTokens lines s).eraseDups

/-- No token stands in lines of two schemes. -/
def Separated (lines : List (List Char)) : Prop :=
  ∀ s₁ s₂ t, some t ∈ candidates lines s₁ → some t ∈ candidates lines s₂ → s₁ = s₂

theorem mem_schemeTokens (lines : List (List Char)) (s : Scheme) (t : Token) :
    t ∈ schemeTokens lines s ↔ some t ∈ candidates lines s := by
  simp [schemeTokens]

instance (lines : List (List Char)) : Decidable (Separated lines) :=
  decidable_of_iff
    (∀ s₁ ∈ Scheme.all, ∀ s₂ ∈ Scheme.all, ∀ t ∈ schemeTokens lines s₁,
      t ∈ schemeTokens lines s₂ → s₁ = s₂)
    ⟨fun h s₁ s₂ t h₁ h₂ => h s₁ s₁.mem_all s₂ s₂.mem_all t ((mem_schemeTokens ..).mpr h₁)
        ((mem_schemeTokens ..).mpr h₂),
      fun h s₁ _ s₂ _ t h₁ h₂ => h s₁ s₂ t ((mem_schemeTokens ..).mp h₁)
        ((mem_schemeTokens ..).mp h₂)⟩

/-- The distinct tokens of a scheme that were not handed out yet. -/
def remainingTokens (lines : List (List Char)) (s : Scheme) (c : Consumed) : List Token :=
  ((schemeTokens lines s).filter fun t => !c.contains t).eraseDups

/-! ## Lemmas -/

theorem remainingTokens_empty (lines : List (List Char)) (s : Scheme) :
    remainingTokens lines s {} = distinctTokens lines s := by
  have h : (schemeTokens lines s).filter (fun t => !Consumed.contains {} t) =
      schemeTokens lines s := List.filter_eq_self.mpr fun t _ => by simp [Consumed.contains]
  rw [remainingTokens, h, distinctTokens]

/-- Under `advance` the first token that was not handed out yet is selected. -/
theorem selectToken_advance (lines : List (List Char)) (s : Scheme) (c : Consumed) :
    selectToken lines s c .advance =
      ((schemeTokens lines s).filter fun t => !c.contains t).head? := by
  have h : (candidates lines s).filterMap (fun t? => t?.filter fun t => !c.contains t) =
      (schemeTokens lines s).filter fun t => !c.contains t := by
    unfold schemeTokens
    rw [List.filter_filterMap]
    rfl
  rw [← h, List.head?_filterMap]
  rfl

theorem contains_insert (c : Consumed) (t u : Token) :
    (c.insert t).contains u = (c.contains u || decide (u = t)) := by
  have := c.mem_tokens_insert t u
  simp only [Consumed.contains]
  rw [Bool.eq_iff_iff]
  simpa using this

/-- The selected token is the first of those that remain. -/
theorem remainingTokens_of_selectToken (lines : List (List Char)) (s : Scheme) (c : Consumed)
    (t : Token) (h : selectToken lines s c .advance = some t) :
    remainingTokens lines s c = t :: remainingTokens lines s (c.insert t) := by
  rw [selectToken_advance] at h
  have hf : ((schemeTokens lines s).filter fun u => !(c.insert t).contains u) =
      ((schemeTokens lines s).filter fun u => !c.contains u).filter fun u => !u == t := by
    rw [List.filter_filter]
    apply List.filter_congr
    intro u _
    rw [contains_insert, Bool.not_or, Bool.and_comm]
    rfl
  unfold remainingTokens
  rw [hf]
  cases hl : (schemeTokens lines s).filter fun u => !c.contains u with
  | nil =>
    rw [hl] at h
    cases h
  | cons u us =>
    rw [hl, List.head?_cons, Option.some.injEq] at h
    subst h
    rw [List.eraseDups_cons, List.filter_cons_of_neg (by simp)]

theorem remainingTokens_of_selectToken_none (lines : List (List Char)) (s : Scheme)
    (c : Consumed) (h : selectToken lines s c .advance = none) :
    remainingTokens lines s c = [] := by
  rw [selectToken_advance, List.head?_eq_none_iff] at h
  rw [remainingTokens, h, List.eraseDups_nil]

/-- Handing out a token of one scheme leaves what remains of another. -/
theorem remainingTokens_insert_of_ne (lines : List (List Char)) (hsep : Separated lines)
    (s s' : Scheme) (c : Consumed) (t : Token) (ht : some t ∈ candidates lines s)
    (hne : s ≠ s') : remainingTokens lines s' (c.insert t) = remainingTokens lines s' c := by
  unfold remainingTokens
  congr 1
  apply List.filter_congr
  intro u hu
  have hut : u ≠ t := by
    rintro rfl
    exact hne (hsep s s' u ht ((mem_schemeTokens lines s' u).mp hu))
  rw [contains_insert, decide_eq_false hut, Bool.or_false]

/-- **Each scheme is served by itself**, from whatever tokens remain. -/
theorem filter_assign_advance (lines : List (List Char)) (hsep : Separated lines)
    (bs : List Binding) (c : Consumed) (s : Scheme) :
    (assign .advance lines bs c).filter (fun a => a.binding.scheme = s) =
      (bs.filter fun b => b.scheme = s).mapIdx
        fun k b => ⟨b, (remainingTokens lines s c)[k]?⟩ := by
  induction bs generalizing c with
  | nil => rfl
  | cons b rest ih =>
    rw [assign]
    cases hsel : selectToken lines b.scheme c .advance with
    | none =>
      simp only
      by_cases hs : b.scheme = s
      · have hnil := remainingTokens_of_selectToken_none lines b.scheme c hsel
        rw [hs] at hnil
        simp [hs, ih, hnil]
      · simp [hs, ih]
    | some t =>
      simp only
      by_cases hs : b.scheme = s
      · have hcons := remainingTokens_of_selectToken lines b.scheme c t hsel
        rw [hs] at hcons
        simp [hs, ih, hcons]
      · have hmem := (mem_of_selectToken lines b.scheme c .advance t hsel).1
        have hrest := remainingTokens_insert_of_ne lines hsep b.scheme s c t hmem hs
        simp [hs, ih, hrest]

/-- Bindings that take the elements of a list in order take as many as there are. -/
theorem tokens_mapIdx (bs : List Binding) (ts : List Token) :
    Assignment.tokens (bs.mapIdx fun k b => ⟨b, ts[k]?⟩) = ts.take bs.length := by
  induction bs generalizing ts with
  | nil => simp [Assignment.tokens]
  | cons b bs ih =>
    rw [List.mapIdx_cons]
    cases ts with
    | nil => simpa [Assignment.tokens] using ih []
    | cons t ts => simpa [Assignment.tokens] using ih ts

/-- Every token is received for a binding of one scheme. -/
theorem length_tokens_eq_sum (as : List Assignment) :
    (Assignment.tokens as).length = (Scheme.all.map fun s =>
      (Assignment.tokens (as.filter fun a => a.binding.scheme = s)).length).sum := by
  induction as with
  | nil => rfl
  | cons a as ih =>
    obtain ⟨⟨s, k⟩, t?⟩ := a
    simp only [Assignment.tokens, Scheme.all, List.map_cons, List.map_nil, List.sum_cons,
      List.sum_nil] at ih ⊢
    cases t? <;> cases s <;> simp [ih] <;> omega

/-! ## Top theorem -/

/-- **The closed form of a pass under `advance`.**  The k-th binding of a scheme receives the k-th
distinct token of that scheme, or is skipped when there is none; how bindings and lines of several
schemes are interleaved does not matter. -/
theorem insertLines_advance {σ : Type} (r : Runner σ) (hr : r.AlwaysAnswers) (node : String)
    (password : Password) (lines : List (List Char)) (bs : List Binding)
    (hsep : Separated lines) (s : Session σ) :
    let as := assign .advance lines bs {}
    (∃ s', insertLines r node .advance password lines bs {} s =
      (.ok (Assignment.report as, Consumed.insertAll {} (Assignment.tokens as)), s')) ∧
    as.map Assignment.binding = bs ∧
    (∀ sch, as.filter (fun a => a.binding.scheme = sch) =
      (bs.filter fun b => b.scheme = sch).mapIdx
        fun k b => ⟨b, (distinctTokens lines sch)[k]?⟩) ∧
    (Assignment.report as).inserted.length = (Scheme.all.map fun sch =>
      min (bs.filter fun b => b.scheme = sch).length (distinctTokens lines sch).length).sum ∧
    ∀ lines' bs',
      (∀ sch : Scheme, (lines'.filter fun line => sch.label.isPrefixOf line) =
        lines.filter fun line => sch.label.isPrefixOf line) →
      (∀ sch, (bs'.filter fun b => b.scheme = sch) = bs.filter fun b => b.scheme = sch) →
      ∃ s', insertLines r node .advance password lines' bs' {} s =
          (.ok (Assignment.report (assign .advance lines' bs' {}),
            Consumed.insertAll {} (Assignment.tokens (assign .advance lines' bs' {}))), s') ∧
        ∀ sch, (assign .advance lines' bs' {}).filter (fun a => a.binding.scheme = sch) =
          as.filter fun a => a.binding.scheme = sch := by
  intro as
  have hform : ∀ sch, as.filter (fun a => a.binding.scheme = sch) =
      (bs.filter fun b => b.scheme = sch).mapIdx
        fun k b => ⟨b, (distinctTokens lines sch)[k]?⟩ := by
    intro sch
    rw [filter_assign_advance lines hsep bs {} sch, remainingTokens_empty]
  refine ⟨?_, map_binding_assign .advance lines bs {}, hform, ?_, fun lines' bs' hl hb => ?_⟩
  · obtain ⟨s', h, -⟩ :=
      insertLines_of_alwaysAnswers r hr node .advance password lines bs {} s
    exact ⟨s', h⟩
  · rw [Assignment.length_inserted, length_tokens_eq_sum]
    congr 1
    apply List.map_congr_left
    intro sch _
    rw [hform, tokens_mapIdx, List.length_take]
  · have hcand : ∀ sch, candidates lines' sch = candidates lines sch := fun sch => by
      rw [candidates, candidates, hl]
    have hsep' : Separated lines' := fun s₁ s₂ t h₁ h₂ =>
      hsep s₁ s₂ t (hcand s₁ ▸ h₁) (hcand s₂ ▸ h₂)
    obtain ⟨s', h, -⟩ :=
      insertLines_of_alwaysAnswers r hr node .advance password lines' bs' {} s
    refine ⟨s', h, fun sch => ?_⟩
    rw [filter_assign_advance lines' hsep' bs' {} sch, remainingTokens_empty, hform sch, hb]
    unfold distinctTokens schemeTokens
    rw [hcand]

/-- Repeated lines, a line without a token and a binding too many. -/
theorem insertLines_advance_three_of_four :
    let lines := ["sr25519: Secret seed: 0xa".toList, "ed25519: secret seed 0xb".toList,
      "sr25519: Secret seed: 0xa".toList, "sr25519: secret seed".toList,
      "sr25519: Secret seed: 0xc 0xd".toList]
    Separated lines ∧
      ((assign .advance lines defaultBindings {}).filter (fun a => a.binding.scheme = .sr25519) =
        (defaultBindings.filter fun b => b.scheme = .sr25519).mapIdx
          fun k b => ⟨b, (distinctTokens lines .sr25519)[k]?⟩) ∧
      (Assignment.report (assign .advance lines defaultBindings {})).inserted.length = 3 := by
  intro lines
  have hsep : Separated lines := by decide +kernel
  obtain ⟨-, -, hform, hlen, -⟩ := insertLines_advance Runner.silent Runner.silent_alwaysAnswers
    "node" ⟨"pw", by decide⟩ lines defaultBindings hsep { files := {}, state := () }
  refine ⟨hsep, hform .sr25519, hlen.trans ?_⟩
  decide +kernel

end ValidatorKeys
