import ValidatorKeys.Text.Blank
import ValidatorKeys.Text.Lines

/-!
# Lines, trimming and words

A text that was written line by line is read back line by line, when no line holds a line feed or
ends in a carriage return; a trimmed line never does.

    lines (l ++ "\n" ++ rest) = l :: lines rest
    trim (a ++ s ++ b) = trim s                  for blanks a and b
    words (w ++ b :: rest) = w :: words rest     for a blank b and a w without blanks
-/

namespace ValidatorKeys.Text

/-! ## Lines -/

/-- A line that can be written with a line feed behind it and read back. -/
structure IsLine (l : List Char) : Prop where
  newline_not_mem : '\n' ∉ l
  getLast?_ne : l.getLast? ≠ some '\r'

theorem lines_cons_of_ne {c : Char} {r l : List Char} {ls : List (List Char)} (hn : c ≠ '\n')
    (hr : c = '\r' → r.head? ≠ some '\n') (h : lines r = l :: ls) :
    lines (c :: r) = (c :: l) :: ls := by
  rw [lines.eq_def]
  split
  · next heq => cases heq
  · next heq =>
    cases heq
    exact absurd rfl hn
  · next heq =>
    cases heq
    exact absurd rfl (hr rfl)
  · next heq =>
    cases heq
    rw [h]

theorem lines_ne_nil {s : List Char} (h : s ≠ []) : lines s ≠ [] := by
  unfold lines
  split
  · exact absurd rfl h
  · simp
  · simp
  · split <;> simp

theorem lines_eq_nil {s : List Char} (h : lines s = []) : s = [] :=
  Decidable.byContradiction fun hne => lines_ne_nil hne h

theorem lines_singleton {c : Char} (h : c ≠ '\n') : lines [c] = [[c]] := by
  rw [lines.eq_def]
  split
  · next heq => cases heq
  · next heq =>
    cases heq
    exact absurd rfl h
  · next heq => cases heq
  · next heq =>
    cases heq
    rfl

theorem IsLine.of_cons {c : Char} {l : List Char} (h : IsLine (c :: l)) : IsLine l where
  newline_not_mem hm := h.newline_not_mem (List.mem_cons_of_mem _ hm)
  getLast?_ne hl := h.getLast?_ne (by rw [List.getLast?_cons, hl]; rfl)

/-- A carriage return is not last in a line, so what follows it is in the line. -/
theorem IsLine.head?_append_ne {c : Char} {l : List Char} (h : IsLine (c :: l)) (r : List Char) :
    c = '\r' → (l ++ r).head? ≠ some '\n' := by
  rintro rfl hhead
  cases l with
  | nil => exact h.getLast?_ne rfl
  | cons d l =>
    simp only [List.cons_append, List.head?_cons, Option.some.injEq] at hhead
    exact h.newline_not_mem (by simp [hhead])

theorem lines_append_newline {l : List Char} (h : IsLine l) (rest : List Char) :
    lines (l ++ '\n' :: rest) = l :: lines rest := by
  induction l with
  | nil => exact lines_newline rest
  | cons c l ih =>
    rw [List.cons_append]
    exact lines_cons_of_ne (fun hc => h.newline_not_mem (hc ▸ List.mem_cons_self))
      (h.head?_append_ne _) (ih h.of_cons)

/-- **Written lines are read back.** -/
theorem lines_flatMap_newline {ls : List (List Char)} (h : ∀ l ∈ ls, IsLine l) :
    lines (ls.flatMap fun l => l ++ ['\n']) = ls := by
  induction ls with
  | nil => rfl
  | cons l ls ih =>
    rw [List.flatMap_cons, List.append_assoc, List.singleton_append,
      lines_append_newline (h l List.mem_cons_self),
      ih fun l' hl' => h l' (List.mem_cons_of_mem _ hl')]

/-- The lines of whole lines and of what follows them. -/
theorem lines_append {s : List Char} (h : s = [] ∨ s.getLast? = some '\n') (t : List Char) :
    lines (s ++ t) = lines s ++ lines t := by
  have htail : ∀ {c r}, r ≠ [] → (c :: r = [] ∨ (c :: r).getLast? = some '\n') →
      r = [] ∨ r.getLast? = some '\n' := by
    intro c r hr h
    rw [List.getLast?_cons_of_ne_nil hr] at h
    exact Or.inr (h.resolve_left (by simp))
  fun_induction lines s with
  | case1 => rfl
  | case2 r ih =>
    by_cases hr : r = []
    · subst hr
      rw [List.singleton_append, lines_newline]
      rfl
    · rw [List.cons_append, lines_newline, ih (htail hr h), List.cons_append]
  | case3 r ih =>
    by_cases hr : r = []
    · subst hr
      rw [List.cons_append, List.singleton_append, lines]
      rfl
    · rw [List.cons_append, List.cons_append, lines, ih (htail hr (htail (by simp) h)),
        List.cons_append]
  | case4 c r hn hr heq ih =>
    obtain rfl := lines_eq_nil heq
    rcases h with h | h
    · cases h
    · exact absurd (Option.some.inj h) fun hc => hn hc
  | case5 c r hn hr l ls heq ih =>
    have hne : r ≠ [] := by
      rintro rfl
      cases heq
    rw [List.cons_append, List.cons_append]
    refine lines_cons_of_ne (fun h => hn h) (fun hc hhead => ?_) ?_
    · obtain ⟨d, u, rfl⟩ := List.exists_cons_of_ne_nil hne
      obtain rfl : d = '\n' := Option.some.inj hhead
      exact hr u hc rfl
    · rw [ih (htail hne h), heq, List.cons_append]

theorem newline_not_mem_of_mem_lines {s l : List Char} (h : l ∈ lines s) : '\n' ∉ l := by
  fun_induction lines s generalizing l with
  | case1 => simp at h
  | case2 r ih =>
    rcases List.mem_cons.mp h with rfl | h
    · simp
    · exact ih h
  | case3 r ih =>
    rcases List.mem_cons.mp h with rfl | h
    · simp
    · exact ih h
  | case4 c r hn hr heq ih =>
    rw [List.mem_singleton] at h
    subst h
    simp only [List.mem_singleton]
    rintro rfl
    exact hn rfl
  | case5 c r hn hr l' ls heq ih =>
    rcases List.mem_cons.mp h with rfl | h
    · have := ih (heq ▸ List.mem_cons_self : l' ∈ lines r)
      simp only [List.mem_cons, not_or]
      refine ⟨?_, this⟩
      rintro rfl
      exact hn rfl
    · exact ih (heq ▸ List.mem_cons_of_mem _ h)

/-- The first line stands in front of the text. -/
theorem exists_append_of_lines {s l : List Char} {ls : List (List Char)} (h : lines s = l :: ls) :
    ∃ r, s = l ++ r := by
  fun_induction lines s generalizing l ls with
  | case1 => cases h
  | case2 r _ =>
    cases h
    exact ⟨_, rfl⟩
  | case3 r _ =>
    cases h
    exact ⟨_, rfl⟩
  | case4 c r _ _ _ _ =>
    cases h
    exact ⟨r, rfl⟩
  | case5 c r _ _ l' ls' heq ih =>
    cases h
    obtain ⟨x, rfl⟩ := ih heq
    exact ⟨x, rfl⟩

/-! ## Trimming -/

theorem mem_of_mem_trim {s : List Char} {c : Char} (h : c ∈ trim s) : c ∈ s := by
  unfold trim trimEnd at h
  rw [List.mem_reverse] at h
  have := (List.dropWhile_suffix isBlank).subset h
  rw [List.mem_reverse] at this
  exact (List.dropWhile_suffix isBlank).subset this

theorem trimEnd_prefix (s : List Char) : trimEnd s <+: s := by
  rw [trimEnd, ← List.reverse_suffix, List.reverse_reverse]
  exact List.dropWhile_suffix isBlank

theorem isBlank_head?_trim (s : List Char) (c : Char) (h : (trim s).head? = some c) :
    isBlank c = false := by
  obtain ⟨r, hr⟩ := trimEnd_prefix (trimStart s)
  obtain ⟨t, ht⟩ := List.head?_eq_some_iff.mp h
  have := List.head?_dropWhile_not isBlank s
  rw [← trimStart, ← hr, ← trim, ht] at this
  exact this

theorem isBlank_getLast?_trim (s : List Char) (c : Char) (h : (trim s).getLast? = some c) :
    isBlank c = false := by
  unfold trim trimEnd at h
  rw [List.getLast?_reverse] at h
  have := List.head?_dropWhile_not isBlank (trimStart s).reverse
  rw [h] at this
  exact this

/-- **A trimmed line can be written and read back.** -/
theorem isLine_trim {s l : List Char} (h : l ∈ lines s) : IsLine (trim l) where
  newline_not_mem hm := newline_not_mem_of_mem_lines h (mem_of_mem_trim hm)
  getLast?_ne hl := by
    have := isBlank_getLast?_trim l '\r' hl
    revert this
    decide

theorem trimEnd_append {b : List Char} (hb : allBlank b = true) (s : List Char) :
    trimEnd (s ++ b) = trimEnd s := by
  have hpos : ∀ c ∈ b.reverse, isBlank c = true := by
    intro c hc
    rw [List.mem_reverse] at hc
    exact List.all_eq_true.mp hb c hc
  unfold trimEnd
  rw [List.reverse_append, List.dropWhile_append_of_pos hpos]

/-- Blanks around a text are trimmed away. -/
theorem trim_between {a b : List Char} (ha : allBlank a = true) (hb : allBlank b = true)
    (s : List Char) : trim (a ++ s ++ b) = trim s := by
  unfold trim trimStart
  rw [List.append_assoc, List.dropWhile_append_of_pos (List.all_eq_true.mp ha),
    List.dropWhile_append]
  split
  · next hempty =>
    -- nothing but blanks: nothing is left on either side
    have hnone : (b ++ []).dropWhile isBlank = [] :=
      List.dropWhile_append_of_pos (List.all_eq_true.mp hb)
    rw [List.append_nil] at hnone
    rw [hnone, List.isEmpty_iff.mp hempty]
  · exact trimEnd_append hb _

/-- A text is what trimming leaves, between blanks. -/
theorem exists_trim (s : List Char) :
    ∃ a b, s = a ++ trim s ++ b ∧ allBlank a = true ∧ allBlank b = true := by
  refine ⟨s.takeWhile isBlank, ((trimStart s).reverse.takeWhile isBlank).reverse, ?_, ?_, ?_⟩
  · rw [List.append_assoc, trim, trimEnd, ← List.reverse_append, List.takeWhile_append_dropWhile,
      List.reverse_reverse, trimStart, List.takeWhile_append_dropWhile]
  · exact List.all_takeWhile
  · rw [allBlank, List.all_reverse]
    exact List.all_takeWhile

theorem trim_eq_self {s : List Char} (h : ∀ c ∈ s, isBlank c = false) : trim s = s := by
  have hkeep : ∀ t : List Char, (∀ c ∈ t, isBlank c = false) → t.dropWhile isBlank = t := by
    intro t ht
    cases t with
    | nil => rfl
    | cons c t => exact List.dropWhile_cons_of_neg (by simp [ht c List.mem_cons_self])
  unfold trim trimEnd trimStart
  rw [hkeep s h, hkeep s.reverse (by simpa using h), List.reverse_reverse]

/-! ## Words -/

theorem words_cons_blank {b : Char} (hb : isBlank b = true) (s : List Char) :
    words (b :: s) = words s := by
  rw [words.eq_def (b :: s), words.eq_def s, List.dropWhile_cons_of_pos hb]

theorem words_cons_of_not_blank {c : Char} (hc : isBlank c = false) (s : List Char) :
    words (c :: s) = (c :: s.takeWhile fun d => !isBlank d) ::
      words (s.dropWhile fun d => !isBlank d) := by
  rw [words]
  split
  · next heq => simp [hc] at heq
  · next heq =>
    rw [List.dropWhile_cons_of_neg (by simp [hc])] at heq
    cases heq
    rfl

/-- A word with a blank behind it is the first word. -/
theorem words_append_blank {w : List Char} {b : Char} (hne : w ≠ [])
    (hw : ∀ c ∈ w, isBlank c = false) (hb : isBlank b = true) (s : List Char) :
    words (w ++ b :: s) = w :: words s := by
  obtain ⟨c, w, rfl⟩ := List.exists_cons_of_ne_nil hne
  have hc := hw c List.mem_cons_self
  have hrest : ∀ d ∈ w, (!isBlank d) = true := fun d hd => by
    simp [hw d (List.mem_cons_of_mem _ hd)]
  rw [List.cons_append, words_cons_of_not_blank hc,
    List.takeWhile_append_of_pos hrest, List.dropWhile_append_of_pos hrest,
    List.takeWhile_cons_of_neg (by simp [hb]), List.dropWhile_cons_of_neg (by simp [hb]),
    words_cons_blank hb, List.append_nil]

end ValidatorKeys.Text
