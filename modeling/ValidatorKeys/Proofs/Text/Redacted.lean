import ValidatorKeys.Proofs.Text.LongNumbers

/-!
# What redaction leaves

The placeholder begins with `0x`, as the number did that it stands for.  So the text in front of a
number meets the same character and the same run of digits before and after redaction, and no seam
between a placeholder and the text around it makes a number that was not there.

    (redact t).head?                = t.head?
    (redact t).takeWhile isHexDigit = t.takeWhile isHexDigit
    ¬HasLongNumber (redact t)
-/

namespace ValidatorKeys.Text

/-! ## Seams -/

theorem head?_redact (t : List Char) : (redact t).head? = t.head? := by
  fun_induction redact t with
  | case1 => rfl
  | case2 r hlong ih => rfl
  | case3 r hshort ih => rfl
  | case4 c r hc ih => rfl

/-- The digits at the start of a text are as many before redaction as after it. -/
theorem takeWhile_redact (t : List Char) :
    (redact t).takeWhile isHexDigit = t.takeWhile isHexDigit := by
  fun_induction redact t with
  | case1 => rfl
  | case2 r hlong ih => rfl
  | case3 r hshort ih => rfl
  | case4 c r hc ih => rw [List.takeWhile_cons, List.takeWhile_cons, ih]

theorem hasLongNumber_append_of_not_mem {a : List Char} (ha : '0' ∉ a) (t : List Char) :
    HasLongNumber (a ++ t) ↔ HasLongNumber t := by
  induction a with
  | nil => rfl
  | cons c a ih =>
    rw [List.mem_cons, not_or] at ha
    rw [List.cons_append, hasLongNumber_cons fun h => absurd h.symm ha.1, ih ha.2]

/-- The placeholder is no long number, and makes none with what follows it. -/
theorem hasLongNumber_redacted_append (t : List Char) :
    HasLongNumber (redacted ++ t) ↔ HasLongNumber t := by
  have hparts : redacted ++ t = '0' :: 'x' :: ("[REDACTED]".toList ++ t) := rfl
  have hrun : (("[REDACTED]".toList ++ t).takeWhile isHexDigit).length = 0 := rfl
  rw [hparts, hasLongNumber_number, hrun, hasLongNumber_append_of_not_mem (by decide)]
  simp

theorem not_hasLongNumber_redact (t : List Char) : ¬HasLongNumber (redact t) := by
  fun_induction redact t with
  | case1 => exact not_hasLongNumber_nil
  | case2 r hlong ih => rwa [hasLongNumber_redacted_append]
  | case3 r hshort ih =>
    -- the run behind the short number is as short as it was
    rw [hasLongNumber_number, takeWhile_redact]
    exact not_or.mpr ⟨hshort, ih⟩
  | case4 c r hc ih =>
    have hseam : c = '0' → (redact r).head? ≠ some 'x' := by
      intro h0 hx
      rw [head?_redact] at hx
      obtain ⟨r', hr'⟩ := List.head?_eq_some_iff.mp hx
      exact hc r' h0 hr'
    rwa [hasLongNumber_cons hseam]

/-! ## Top theorem -/

/-- **Redaction leaves nothing to redact.**  A redacted text shows no long number, so a second
redaction changes nothing; and the first changes nothing exactly where there is none. -/
theorem redactString_leaves_nothing (text : String) :
    ¬ShowsLongNumber (redactString text) ∧
      redactString (redactString text) = redactString text ∧
      (redactString text = text ↔ ¬ShowsLongNumber text) := by
  have hnone : ¬ShowsLongNumber (redactString text) := by
    rw [showsLongNumber_iff, redactString, String.toList_ofList]
    exact not_hasLongNumber_redact text.toList
  exact ⟨hnone, (redactString_eq_self_iff _).mpr hnone, redactString_eq_self_iff text⟩

/-- Fourteen digits stay in front of a placeholder: with its `0` they are one too few. -/
example :
    redactString "0xaaaaaaaaaaaaaa0xbbbbbbbbbbbbbbbb" = "0xaaaaaaaaaaaaaa0x[REDACTED]" ∧
      redactString "0xaaaaaaaaaaaaaa0x[REDACTED]" = "0xaaaaaaaaaaaaaa0x[REDACTED]" :=
  ⟨by cbv, by cbv⟩

end ValidatorKeys.Text
