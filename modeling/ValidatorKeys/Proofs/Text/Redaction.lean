import Mathlib.Data.List.TakeWhile
import ValidatorKeys.Text.Redaction

/-!
# What redaction hides

`redact` reads from the left, and a long number takes all hex digits behind its `0x`.  A `0` is such
a digit, so a number that directly follows a long one loses its `0` to it and is shown.  The digits
of a long number are hidden in every text exactly when the text in front does not end in a number
that takes the `0`.

    redact (p ++ "0x" ++ h ++ s) = redact p ++ "0x[REDACTED]" ++ …     unless endsInNumber p
    redact (p ++ "0x" ++ t)      = redact (p ++ "0") ++ "x" ++ redact t    if endsInNumber p
-/

namespace ValidatorKeys.Text

/-! ## Definitions -/

/-- Whether a text ends in a number that a further digit makes long, if it is not long already.
A number that lost its `0` to the one before it does not count. -/
def endsInNumber : List Char → Bool
  | [] => false
  | '0' :: 'x' :: r =>
    if r.all isHexDigit then 15 ≤ r.length
    else if 16 ≤ (r.takeWhile isHexDigit).length then endsInNumber (r.dropWhile isHexDigit)
    else endsInNumber r
  | _ :: r => endsInNumber r
termination_by s => s.length
decreasing_by
  · have := length_dropWhile_le isHexDigit r
    simp only [List.length_cons]
    omega
  · simp only [List.length_cons]
    omega
  · simp only [List.length_cons]
    omega

def LongHex (h : String) : Prop := h.toList.all isHexDigit = true ∧ 16 ≤ h.toList.length

instance (h : String) : Decidable (LongHex h) :=
  inferInstanceAs (Decidable (h.toList.all isHexDigit = true ∧ 16 ≤ h.toList.length))

/-! ## Lemmas -/

section

variable {p : Char → Bool}

theorem takeWhile_append_of_not_all {r : List Char} (h : r.all p = false) (s : List Char) :
    (r ++ s).takeWhile p = r.takeWhile p := by
  rw [List.takeWhile_append, if_neg]
  intro hlen
  have hself : r.takeWhile p = r := (List.takeWhile_prefix p).eq_of_length hlen
  rw [List.takeWhile_eq_self_iff, ← List.all_eq_true, h] at hself
  cases hself

theorem dropWhile_append_of_not_all {r : List Char} (h : r.all p = false) (s : List Char) :
    (r ++ s).dropWhile p = r.dropWhile p ++ s := by
  rw [List.dropWhile_append, if_neg]
  intro hnil
  rw [List.isEmpty_iff, List.dropWhile_eq_nil_iff, ← List.all_eq_true, h] at hnil
  cases hnil

end

/-- A character that does not begin a number is kept. -/
theorem redact_cons {c : Char} {r : List Char} (h : c = '0' → r.head? ≠ some 'x') :
    redact (c :: r) = c :: redact r := by
  rw [redact.eq_def]
  split
  · next heq => cases heq
  · next heq =>
    cases heq
    exact absurd rfl (h rfl)
  · next heq =>
    cases heq
    rfl

theorem redact_number (r : List Char) :
    redact ('0' :: 'x' :: r) =
      if 16 ≤ (r.takeWhile isHexDigit).length then redacted ++ redact (r.dropWhile isHexDigit)
      else '0' :: 'x' :: redact r := by
  rw [redact]

/-- No digit begins a number with what follows it, where `x` does not follow the digits. -/
theorem head?_digits_append {d s : List Char} {c : Char} (hd : d.all isHexDigit = true)
    (hs : s.head? ≠ some 'x') : c = '0' → (d ++ s).head? ≠ some 'x' := by
  intro _ hx
  cases d with
  | nil => exact hs hx
  | cons e d =>
    rw [List.cons_append, List.head?_cons, Option.some.injEq] at hx
    subst hx
    rw [List.all_cons, show isHexDigit 'x' = false by decide] at hd
    cases hd

/-- A character that begins no number begins none when the text goes on without `x`. -/
theorem head?_append_of_ne {c : Char} {r s : List Char}
    (hc : ∀ r', c = '0' → r = 'x' :: r' → False) (hs : s.head? ≠ some 'x') :
    c = '0' → (r ++ s).head? ≠ some 'x' := by
  intro hc0 hx
  cases r with
  | nil => exact hs hx
  | cons d r' =>
    rw [List.cons_append, List.head?_cons, Option.some.injEq] at hx
    exact hc r' hc0 (by rw [hx])

/-- Digits are kept in front of a character that makes no number with them. -/
theorem redact_digits_append {d s : List Char} (hd : d.all isHexDigit = true)
    (hs : s.head? ≠ some 'x') : redact (d ++ s) = d ++ redact s := by
  induction d with
  | nil => rfl
  | cons c d ih =>
    rw [List.all_cons, Bool.and_eq_true] at hd
    rw [List.cons_append, redact_cons (head?_digits_append hd.2 hs), ih hd.2, List.cons_append]

theorem redact_digits {d : List Char} (hd : d.all isHexDigit = true) : redact d = d := by
  have h := redact_digits_append (s := []) hd (by simp)
  rwa [List.append_nil, redact, List.append_nil] at h

/-- A number that the text in front leaves alone is read by itself. -/
theorem redact_append_number {p : List Char} (h : endsInNumber p = false) (t : List Char) :
    redact (p ++ '0' :: 'x' :: t) = redact p ++ redact ('0' :: 'x' :: t) := by
  fun_induction endsInNumber p with
  | case1 => rw [redact, List.nil_append, List.nil_append]
  | case2 r hall =>
    -- too short to be a long number, even with the `0` behind it
    have hlen : r.length < 15 := by simpa using h
    have hrun : (r ++ '0' :: 'x' :: t).takeWhile isHexDigit = r ++ ['0'] := by
      rw [List.takeWhile_append_of_pos (List.all_eq_true.mp hall)]
      rfl
    have hself : r.takeWhile isHexDigit = r :=
      List.takeWhile_eq_self_iff.mpr (List.all_eq_true.mp hall)
    rw [List.cons_append, List.cons_append, redact_number, redact_number, hrun, hself,
      if_neg (by simp; omega), if_neg (by omega), redact_digits_append hall (by simp),
      redact_digits hall]
    rfl
  | case3 r hall hlong ih =>
    rw [Bool.not_eq_true] at hall
    rw [List.cons_append, List.cons_append, redact_number, redact_number,
      takeWhile_append_of_not_all hall, dropWhile_append_of_not_all hall, if_pos hlong,
      if_pos hlong, ih h, List.append_assoc]
  | case4 r hall hshort ih =>
    rw [Bool.not_eq_true] at hall
    rw [List.cons_append, List.cons_append, redact_number, redact_number,
      takeWhile_append_of_not_all hall, if_neg hshort, if_neg hshort, ih h]
    rfl
  | case5 c r hc ih =>
    have hr := head?_append_of_ne hc (s := []) (by simp)
    rw [List.append_nil] at hr
    rw [List.cons_append, redact_cons (head?_append_of_ne hc (by simp)), redact_cons hr, ih h,
      List.cons_append]

/-- A number that directly follows one that takes its `0` is shown. -/
theorem redact_append_number_shown {p : List Char} (h : endsInNumber p = true) (t : List Char) :
    redact (p ++ '0' :: 'x' :: t) = redact (p ++ ['0']) ++ 'x' :: redact t := by
  have hx : redact ('x' :: t) = 'x' :: redact t := redact_cons (fun e => by cases e)
  fun_induction endsInNumber p with
  | case1 => cases h
  | case2 r hall =>
    have hlen : 15 ≤ r.length := by simpa using h
    have hpos := List.all_eq_true.mp hall
    have hrun : (r ++ '0' :: 'x' :: t).takeWhile isHexDigit = r ++ ['0'] := by
      rw [List.takeWhile_append_of_pos hpos]
      rfl
    have hrest : (r ++ '0' :: 'x' :: t).dropWhile isHexDigit = 'x' :: t := by
      rw [List.dropWhile_append_of_pos hpos]
      rfl
    have hrun₁ : (r ++ ['0']).takeWhile isHexDigit = r ++ ['0'] := by
      rw [List.takeWhile_append_of_pos hpos]
      rfl
    have hrest₁ : (r ++ ['0']).dropWhile isHexDigit = [] := by
      rw [List.dropWhile_append_of_pos hpos]
      rfl
    have hlong : 16 ≤ (r ++ ['0']).length := by
      rw [List.length_append, List.length_singleton]
      omega
    simp only [List.cons_append]
    rw [redact_number, redact_number, hrun, hrest, hrun₁, hrest₁, if_pos hlong, if_pos hlong, hx,
      redact, List.append_nil]
  | case3 r hall hlong ih =>
    rw [Bool.not_eq_true] at hall
    simp only [List.cons_append]
    rw [redact_number, redact_number, takeWhile_append_of_not_all hall,
      dropWhile_append_of_not_all hall, takeWhile_append_of_not_all hall,
      dropWhile_append_of_not_all hall, if_pos hlong, if_pos hlong, ih h, List.append_assoc]
  | case4 r hall hshort ih =>
    rw [Bool.not_eq_true] at hall
    simp only [List.cons_append]
    rw [redact_number, redact_number, takeWhile_append_of_not_all hall,
      takeWhile_append_of_not_all hall, if_neg hshort, if_neg hshort, ih h]
    rfl
  | case5 c r hc ih =>
    rw [List.cons_append, redact_cons (head?_append_of_ne hc (by simp)), ih h, List.cons_append,
      redact_cons (head?_append_of_ne hc (by simp))]
    rfl

theorem endsInNumber_cons {c : Char} {r : List Char} (h : c = '0' → r.head? ≠ some 'x') :
    endsInNumber (c :: r) = endsInNumber r := by
  rw [endsInNumber.eq_def]
  split
  · next heq => cases heq
  · next heq =>
    cases heq
    exact absurd rfl (h rfl)
  · next heq =>
    cases heq
    rfl

theorem endsInNumber_digits_append {d s : List Char} (hd : d.all isHexDigit = true)
    (hs : s.head? ≠ some 'x') : endsInNumber (d ++ s) = endsInNumber s := by
  induction d with
  | nil => rfl
  | cons c d ih =>
    rw [List.all_cons, Bool.and_eq_true] at hd
    rw [List.cons_append, endsInNumber_cons (head?_digits_append hd.2 hs), ih hd.2]

/-- Where a text ends in a number, this takes a `0` behind it when it has fifteen digits or more
and has kept its own `0`. -/
theorem endsInNumber_append {d : List Char} (hd : d.all isHexDigit = true) (q : List Char) :
    endsInNumber (q ++ '0' :: 'x' :: d) = (!endsInNumber q && decide (15 ≤ d.length)) := by
  have hdigits : endsInNumber d = false := by
    have h := endsInNumber_digits_append (s := []) hd (by simp)
    rwa [List.append_nil, endsInNumber] at h
  have hx : endsInNumber ('x' :: d) = false :=
    (endsInNumber_cons (fun e => by cases e)).trans hdigits
  have hnumber : endsInNumber ('0' :: 'x' :: d) = decide (15 ≤ d.length) := by
    rw [endsInNumber, if_pos hd]
  fun_induction endsInNumber q with
  | case1 => rw [List.nil_append, hnumber]; rfl
  | case2 r hall =>
    have hpos := List.all_eq_true.mp hall
    have hnot : (r ++ '0' :: 'x' :: d).all isHexDigit = false := by
      rw [List.all_append, List.all_cons, List.all_cons, show isHexDigit 'x' = false by decide]
      simp
    have hrun : ((r ++ '0' :: 'x' :: d).takeWhile isHexDigit).length = r.length + 1 := by
      rw [List.takeWhile_append_of_pos hpos, List.length_append]
      rfl
    have hrest : (r ++ '0' :: 'x' :: d).dropWhile isHexDigit = 'x' :: d := by
      rw [List.dropWhile_append_of_pos hpos]
      rfl
    rw [List.cons_append, List.cons_append, endsInNumber, if_neg (by simp [hnot]), hrun, hrest]
    by_cases hlong : 15 ≤ r.length
    · rw [if_pos (by omega), hx, decide_eq_true hlong]
      rfl
    · rw [if_neg (by omega), endsInNumber_digits_append hall (by simp), hnumber,
        decide_eq_false hlong]
      rfl
  | case3 r hall hlong ih =>
    rw [Bool.not_eq_true] at hall
    rw [List.cons_append, List.cons_append, endsInNumber,
      if_neg (by rw [List.all_append, hall]; simp), takeWhile_append_of_not_all hall,
      dropWhile_append_of_not_all hall, if_pos hlong, ih]
  | case4 r hall hshort ih =>
    rw [Bool.not_eq_true] at hall
    rw [List.cons_append, List.cons_append, endsInNumber,
      if_neg (by rw [List.all_append, hall]; simp), takeWhile_append_of_not_all hall,
      if_neg hshort, ih]
  | case5 c r hc ih =>
    rw [List.cons_append, endsInNumber_cons (head?_append_of_ne hc (by simp)), ih]

/-- What takes a `0` behind it is a number with fifteen digits or more that has kept its own. -/
theorem endsInNumber_iff {p : List Char} :
    endsInNumber p = true ↔ ∃ q d, p = q ++ '0' :: 'x' :: d ∧ d.all isHexDigit = true ∧
      15 ≤ d.length ∧ endsInNumber q = false := by
  constructor
  · intro h
    obtain ⟨q, d, rfl, hd⟩ : ∃ q d, p = q ++ '0' :: 'x' :: d ∧ d.all isHexDigit = true := by
      fun_induction endsInNumber p with
      | case1 => cases h
      | case2 r hall => exact ⟨[], r, rfl, hall⟩
      | case3 r hall hlong ih =>
        obtain ⟨q, d, heq, hd⟩ := ih h
        refine ⟨'0' :: 'x' :: r.takeWhile isHexDigit ++ q, d, ?_, hd⟩
        rw [List.append_assoc, ← heq, List.cons_append, List.cons_append,
          List.takeWhile_append_dropWhile]
      | case4 r hall hshort ih =>
        obtain ⟨q, d, rfl, hd⟩ := ih h
        exact ⟨'0' :: 'x' :: q, d, rfl, hd⟩
      | case5 c r hc ih =>
        obtain ⟨q, d, rfl, hd⟩ := ih h
        exact ⟨c :: q, d, rfl, hd⟩
    rw [endsInNumber_append hd, Bool.and_eq_true, Bool.not_eq_true', decide_eq_true_eq] at h
    exact ⟨q, d, rfl, hd, h.2, h.1⟩
  · rintro ⟨q, d, rfl, hd, hlen, hq⟩
    rw [endsInNumber_append hd, hq, decide_eq_true hlen]
    rfl

/-- A long number that the text in front leaves alone is hidden, whatever its digits. -/
theorem redact_append_long {p h : List Char} (hp : endsInNumber p = false)
    (hh : h.all isHexDigit = true) (hlen : 16 ≤ h.length) (s : List Char) :
    redact (p ++ '0' :: 'x' :: (h ++ s)) =
      redact p ++ (redacted ++ redact (s.dropWhile isHexDigit)) := by
  have hpos := List.all_eq_true.mp hh
  rw [redact_append_number hp, redact_number, List.takeWhile_append_of_pos hpos,
    List.dropWhile_append_of_pos hpos, if_pos]
  rw [List.length_append]
  omega

/-! ## Top theorem -/

/-- **The digits of a long number are hidden exactly when the text in front leaves it its `0`.**
What takes it away is a number of fifteen digits or more that has kept its own. -/
theorem redactString_hides_iff (p : String) :
    (∀ s h h' : String, LongHex h → LongHex h' →
      redactString (p ++ "0x" ++ h ++ s) = redactString (p ++ "0x" ++ h' ++ s)) ↔
    ¬∃ q d, p.toList = q ++ '0' :: 'x' :: d ∧ d.all isHexDigit = true ∧ 15 ≤ d.length ∧
      endsInNumber q = false := by
  have hlist : ∀ h s : String, redactString (p ++ "0x" ++ h ++ s) =
      String.ofList (redact (p.toList ++ '0' :: 'x' :: (h.toList ++ s.toList))) := by
    intro h s
    rw [redactString]
    simp
  rw [← endsInNumber_iff, Bool.not_eq_true]
  constructor
  · intro hidden
    by_contra hp
    rw [Bool.not_eq_false] at hp
    -- two numbers with nothing behind them, both shown
    have hsame := hidden "" "aaaaaaaaaaaaaaaa" "bbbbbbbbbbbbbbbb" (by decide +kernel)
      (by decide +kernel)
    rw [hlist, hlist, String.ofList_inj, redact_append_number_shown hp,
      redact_append_number_shown hp] at hsame
    have hshown := List.tail_eq_of_cons_eq (List.append_cancel_left hsame)
    revert hshown
    rw [redact_digits (by decide +kernel), redact_digits (by decide +kernel)]
    decide +kernel
  · intro hp s h h' hh hh'
    rw [hlist, hlist, redact_append_long hp hh.1 hh.2, redact_append_long hp hh'.1 hh'.2]

/-- Of two long numbers without anything between them, the second is shown. -/
theorem number_behind_number_is_shown :
    LongHex "aaaaaaaaaaaaaaaa" ∧ LongHex "bbbbbbbbbbbbbbbb" ∧
      redactString ("0xaaaaaaaaaaaaaaaa" ++ "0x" ++ "aaaaaaaaaaaaaaaa" ++ "") =
        "0x[REDACTED]xaaaaaaaaaaaaaaaa" ∧
      redactString ("0xaaaaaaaaaaaaaaaa" ++ "0x" ++ "bbbbbbbbbbbbbbbb" ++ "") =
        "0x[REDACTED]xbbbbbbbbbbbbbbbb" := by
  exact ⟨by decide +kernel, by decide +kernel, by cbv, by cbv⟩

end ValidatorKeys.Text
