import ValidatorKeys.Proofs.Text.LongNumbers
import ValidatorKeys.Text.Styled

/-!
# The characters of styled pieces

A styled piece holds the characters of its text and those of the codes around it.  Where it holds no
reset of its own, the text stands in it undivided, with nothing or a code on either side.

    c ∈ paint colours s text  →  c ∈ s.opening ∨ c ∈ text ∨ c ∈ reset
    paint colours s text = text  ∨  paint colours s text = s.opening ++ text ++ reset
-/

namespace ValidatorKeys.Text

theorem mem_afterResets {again t : List Char} {c : Char} (h : c ∈ afterResets again t) :
    c ∈ again ∨ c ∈ t := by
  fun_induction afterResets again t with
  | case1 r ih =>
    simp only [List.cons_append, List.mem_cons, List.mem_append] at h ⊢
    grind
  | case2 d r _ ih =>
    rcases List.mem_cons.mp h with rfl | h
    · exact Or.inr List.mem_cons_self
    · exact (ih h).imp_right (List.mem_cons_of_mem d)
  | case3 => exact Or.inr h

theorem afterResets_eq_self (again : List Char) {t : List Char} (h : '\x1b' ∉ t) :
    afterResets again t = t := by
  fun_induction afterResets again t with
  | case1 r => exact absurd List.mem_cons_self h
  | case2 c r _ ih => rw [ih fun hr => h (List.mem_cons_of_mem c hr)]
  | case3 => rfl

/-- The codes of a style are written without the letter that marks a number. -/
theorem not_mem_opening (s : Style) : 'x' ∉ s.opening.toList := by
  obtain ⟨bold, dimmed, colour⟩ := s
  rcases colour with _ | (_ | _ | _ | _) <;> cases bold <;> cases dimmed <;> decide +kernel

theorem not_mem_reset : 'x' ∉ reset.toList := by decide +kernel

@[simp] theorem not_mem_paint (colours : Bool) (s : Style) {text : String} (h : 'x' ∉ text.toList) :
    'x' ∉ (paint colours s text).toList := by
  unfold paint
  split
  · rw [String.toList_append, String.toList_append, String.toList_ofList, List.mem_append,
      List.mem_append]
    rintro ((hx | hx) | hx)
    · exact not_mem_opening s hx
    · exact (mem_afterResets hx).elim (not_mem_opening s) h
    · exact not_mem_reset hx
  · exact h

/-- A text without resets is shown as it is, with codes around it or not. -/
theorem paint_cases (colours : Bool) (s : Style) {text : String} (h : '\x1b' ∉ text.toList) :
    paint colours s text = text ∨ paint colours s text = s.opening ++ text ++ reset := by
  unfold paint
  split
  · right
    rw [afterResets_eq_self _ h, String.ofList_toList]
  · left
    rfl

/-- **A short styled piece is interrupted by what follows it**: by its reset, or by the next
character. -/
theorem interrupted_paint_short (colours : Bool) (s : Style) {text : String} {r : List Char}
    {d : Char} (hlen : text.toList.length ≤ 15) (hesc : '\x1b' ∉ text.toList)
    (hd : isHexDigit d = false) (hr : Interrupted (d :: r)) :
    Interrupted ((paint colours s text).toList ++ d :: r) := by
  rcases paint_cases colours s hesc with heq | heq <;> rw [heq]
  · exact interrupted_short hlen hd hr
  · rw [String.toList_append, String.toList_append, List.append_assoc, List.append_assoc]
    refine (interrupted_of_not_mem (not_mem_opening s)).append ?_
    refine interrupted_short hlen (d := '\x1b') (r := "[0m".toList ++ d :: r) (by decide) ?_
    exact (interrupted_of_not_mem not_mem_reset).append hr

end ValidatorKeys.Text
