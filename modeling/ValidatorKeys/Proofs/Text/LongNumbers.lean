import ValidatorKeys.Proofs.Text.Redaction

/-!
# Texts that show no long number

Redaction leaves a text alone exactly when no part of it is `0x` with sixteen or more hex digits
behind it.  A text is interrupted when each `x` in it has some other character soon behind it.
Such a text shows no long number, and pieces that are interrupted stay so however they are put
together, while a long number may arise where two pieces without one meet.

    redactString t = t  ↔  ¬ShowsLongNumber t
    Interrupted a, Interrupted b  →  Interrupted (a ++ b)
    Interrupted t  →  ¬ShowsLongNumber t
-/

namespace ValidatorKeys.Text

/-! ## Definitions -/

/-- Whether some part of a text is a long number. -/
def ShowsLongNumber (text : String) : Prop :=
  ∃ p h s : String, text = p ++ "0x" ++ h ++ s ∧ LongHex h

/-- Whether a long number begins somewhere in a text. -/
def HasLongNumber (t : List Char) : Prop :=
  ∃ s, '0' :: 'x' :: s <:+ t ∧ 16 ≤ (s.takeWhile isHexDigit).length

/-- Each `x` has a character that is no hex digit among the sixteen behind it. -/
def Interrupted (t : List Char) : Prop :=
  ∀ s, 'x' :: s <:+ t → ∃ d ∈ s.take 16, isHexDigit d = false

/-! ## Redaction -/

theorem not_hasLongNumber_nil : ¬HasLongNumber [] := by
  rintro ⟨s, hs, -⟩
  cases List.suffix_nil.mp hs

theorem hasLongNumber_cons {c : Char} {r : List Char} (h : c = '0' → r.head? ≠ some 'x') :
    HasLongNumber (c :: r) ↔ HasLongNumber r := by
  constructor
  · rintro ⟨s, hs, hlong⟩
    rcases List.suffix_cons_iff.mp hs with heq | hs
    · cases heq
      exact absurd rfl (h rfl)
    · exact ⟨s, hs, hlong⟩
  · rintro ⟨s, hs, hlong⟩
    exact ⟨s, hs.trans (List.suffix_cons c r), hlong⟩

theorem hasLongNumber_number (r : List Char) :
    HasLongNumber ('0' :: 'x' :: r) ↔
      16 ≤ (r.takeWhile isHexDigit).length ∨ HasLongNumber r := by
  constructor
  · rintro ⟨s, hs, hlong⟩
    rcases List.suffix_cons_iff.mp hs with heq | hs
    · cases heq
      exact Or.inl hlong
    · exact Or.inr ((hasLongNumber_cons (fun e => by cases e)).mp ⟨s, hs, hlong⟩)
  · rintro (hlong | ⟨s, hs, hlong⟩)
    · exact ⟨r, List.suffix_refl _, hlong⟩
    · exact ⟨s, hs.trans ((List.suffix_cons _ r).trans (List.suffix_cons _ _)), hlong⟩

theorem redact_eq_self_iff (t : List Char) : redact t = t ↔ ¬HasLongNumber t := by
  fun_induction redact t with
  | case1 => exact iff_of_true rfl not_hasLongNumber_nil
  | case2 r hlong ih =>
    refine iff_of_false (fun heq => ?_) (not_not_intro ((hasLongNumber_number r).mpr (.inl hlong)))
    -- a digit would stand where the placeholder has its bracket
    cases r with
    | nil => simp at hlong
    | cons d r =>
      obtain rfl : '[' = d := by
        injection heq with _ heq
        injection heq with _ heq
        injection heq
      rw [List.takeWhile_cons_of_neg (by decide)] at hlong
      simp at hlong
  | case3 r hshort ih =>
    rw [hasLongNumber_number, or_iff_right hshort, ← ih, List.cons.injEq, List.cons.injEq]
    simp
  | case4 c r hc ih =>
    have hr : c = '0' → r.head? ≠ some 'x' := by
      intro h0 hx
      obtain ⟨r', hr'⟩ := List.head?_eq_some_iff.mp hx
      exact hc r' h0 hr'
    rw [hasLongNumber_cons hr, ← ih, List.cons.injEq]
    simp

theorem showsLongNumber_iff (text : String) :
    ShowsLongNumber text ↔ HasLongNumber text.toList := by
  constructor
  · rintro ⟨p, h, s, rfl, hh, hlen⟩
    refine ⟨h.toList ++ s.toList, ⟨p.toList, by simp⟩, ?_⟩
    rw [List.takeWhile_append_of_pos (List.all_eq_true.mp hh), List.length_append]
    omega
  · rintro ⟨s, ⟨p, hp⟩, hlong⟩
    refine ⟨String.ofList p, String.ofList (s.takeWhile isHexDigit),
      String.ofList (s.dropWhile isHexDigit), ?_, ?_, ?_⟩
    · rw [← String.toList_inj, ← hp]
      simp
    · rw [String.toList_ofList, List.all_eq_true]
      exact fun c hc => List.mem_takeWhile_imp hc
    · rwa [String.toList_ofList]

/-- **Redaction leaves alone exactly the texts that show no long number.** -/
theorem redactString_eq_self_iff (text : String) :
    redactString text = text ↔ ¬ShowsLongNumber text := by
  rw [showsLongNumber_iff, ← redact_eq_self_iff, redactString, ← String.toList_inj,
    String.toList_ofList]

/-- Two texts that show no long number may show one when they are put together. -/
example : redactString "ab0x" = "ab0x" ∧ redactString "0123456789abcdef" = "0123456789abcdef" ∧
    redactString ("ab0x" ++ "0123456789abcdef") = "ab0x[REDACTED]" :=
  ⟨by cbv, by cbv, by cbv⟩

/-! ## Interrupted texts -/

theorem interrupted_of_not_mem {t : List Char} (h : 'x' ∉ t) : Interrupted t :=
  fun _ hs => absurd (hs.subset List.mem_cons_self) h

theorem interrupted_nil : Interrupted [] := interrupted_of_not_mem List.not_mem_nil

/-- An `x` in a text of two pieces stands in one of them. -/
theorem suffix_append_cases {a b s : List Char} {c : Char} (h : c :: s <:+ a ++ b) :
    (∃ s', c :: s' <:+ a ∧ s = s' ++ b) ∨ c :: s <:+ b := by
  obtain ⟨p, hp⟩ := h
  rcases List.append_eq_append_iff.mp hp with ⟨q, rfl, hq⟩ | ⟨q, rfl, hq⟩
  · cases q with
    | nil => exact Or.inr ⟨[], hq⟩
    | cons d q =>
      injection hq with hd hs
      subst hd
      exact Or.inl ⟨q, ⟨p, rfl⟩, hs⟩
  · exact Or.inr ⟨q, hq.symm⟩

theorem Interrupted.append {a b : List Char} (ha : Interrupted a) (hb : Interrupted b) :
    Interrupted (a ++ b) := by
  intro s hs
  rcases suffix_append_cases hs with ⟨s', hs', rfl⟩ | hs
  · obtain ⟨d, hd, hx⟩ := ha s' hs'
    refine ⟨d, ?_, hx⟩
    rw [List.take_append]
    exact List.mem_append_left _ hd
  · exact hb s hs

theorem Interrupted.cons {c : Char} {t : List Char} (hc : c ≠ 'x') (ht : Interrupted t) :
    Interrupted (c :: t) :=
  (interrupted_of_not_mem fun h => hc (List.mem_singleton.mp h).symm : Interrupted [c]).append ht

theorem interrupted_flatMap {α : Type} {f : α → List Char} {l : List α}
    (h : ∀ a ∈ l, Interrupted (f a)) : Interrupted (l.flatMap f) := by
  induction l with
  | nil => exact interrupted_nil
  | cons a l ih =>
    rw [List.flatMap_cons]
    exact (h a List.mem_cons_self).append (ih fun b hb => h b (List.mem_cons_of_mem a hb))

/-- Whatever a short text is, a character that is no digit interrupts it. -/
theorem interrupted_short {a r : List Char} {d : Char} (ha : a.length ≤ 15)
    (hd : isHexDigit d = false) (hr : Interrupted (d :: r)) : Interrupted (a ++ d :: r) := by
  intro s hs
  rcases suffix_append_cases hs with ⟨s', hs', rfl⟩ | hs
  · refine ⟨d, ?_, hd⟩
    have hlen : s'.length + 1 ≤ a.length := hs'.length_le
    rw [List.take_append, show 16 - s'.length = 15 - s'.length + 1 by omega, List.take_succ_cons]
    exact List.mem_append_right _ List.mem_cons_self
  · exact hr s hs

/-- **An interrupted text shows no long number.** -/
theorem Interrupted.not_showsLongNumber {text : String} (ht : Interrupted text.toList) :
    ¬ShowsLongNumber text := by
  rintro ⟨p, h, s, rfl, hh, hlen⟩
  obtain ⟨d, hd, hx⟩ := ht (h.toList ++ s.toList) ⟨p.toList ++ ['0'], by simp⟩
  rw [List.take_append_of_le_length hlen] at hd
  rw [List.all_eq_true.mp hh d (List.mem_of_mem_take hd)] at hx
  cases hx

end ValidatorKeys.Text
