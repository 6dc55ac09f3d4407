import Mathlib.Data.List.Basic
import Mathlib.Data.List.TakeWhile
import ValidatorKeys.Proofs.Text.Lines

/-!
# Where words stand

A word stands in a text where nothing but blanks touches it.  A blank keeps what is in front of it
apart from what is behind it, so the words of a text are exactly the pieces that stand in it as
words, in the order in which they stand.

    words (a ++ b :: s) = words a ++ words s             for a blank b
    words s             = words a ++ w :: words b        where w stands between a and b
    w ∈ words s         ↔ ∃ a b, WordAt s a w b
-/

namespace ValidatorKeys.Text

/-! ## Definitions -/

/-- A text is `a`, the word `w` and `b`, with blanks next to the word or nothing. -/
structure WordAt (s a w b : List Char) : Prop where
  text_eq : s = a ++ w ++ b
  ne_nil : w ≠ []
  unbroken : ∀ c ∈ w, isBlank c = false
  before : ∀ c ∈ a.getLast?, isBlank c = true
  behind : ∀ c ∈ b.head?, isBlank c = true

/-! ## Splitting -/

/-- Induction along the splitting: over one blank, or over one word. -/
@[elab_as_elim]
theorem words_induction {P : List Char → Prop} (nil : P [])
    (blank : ∀ c s, isBlank c = true → P s → P (c :: s))
    (word : ∀ c s, isBlank c = false → P (s.dropWhile fun d => !isBlank d) → P (c :: s)) :
    ∀ s, P s
  | [] => nil
  | c :: s => by
    have hlength := length_dropWhile_le (fun d => !isBlank d) s
    cases hc : isBlank c with
    | true => exact blank c s hc (words_induction nil blank word s)
    | false => exact word c s hc (words_induction nil blank word _)
termination_by s => s.length

/-- Going through a text stops at a blank at the latest. -/
theorem span_append_blank {b : Char} (hb : isBlank b = true) (s r : List Char) :
    (r ++ b :: s).takeWhile (fun d => !isBlank d) = r.takeWhile (fun d => !isBlank d) ∧
      (r ++ b :: s).dropWhile (fun d => !isBlank d) =
        r.dropWhile (fun d => !isBlank d) ++ b :: s := by
  induction r with
  | nil => simp [hb]
  | cons c r ih =>
    cases hc : isBlank c with
    | true => simp [hc]
    | false => simpa [hc] using ih

/-- **A blank separates**: no word goes over it. -/
theorem words_append_cons {b : Char} (hb : isBlank b = true) (s a : List Char) :
    words (a ++ b :: s) = words a ++ words s := by
  induction a using words_induction with
  | nil => rw [List.nil_append, words_cons_blank hb, words_nil, List.nil_append]
  | blank c a hc ih => rw [List.cons_append, words_cons_blank hc, words_cons_blank hc, ih]
  | word c a hc ih =>
    obtain ⟨htake, hdrop⟩ := span_append_blank hb s a
    rw [List.cons_append, words_cons_of_not_blank hc, words_cons_of_not_blank hc, htake, hdrop, ih,
      List.cons_append]

theorem words_append_of_getLast? {a : List Char} (ha : ∀ c ∈ a.getLast?, isBlank c = true)
    (s : List Char) : words (a ++ s) = words a ++ words s := by
  rcases List.eq_nil_or_concat a with rfl | ⟨a, b, rfl⟩
  · rw [words_nil]
    rfl
  · have hb : isBlank b = true := ha b (by simp)
    rw [List.concat_eq_append, List.append_assoc, List.singleton_append, words_append_cons hb,
      words_append_cons hb, words_nil, List.append_nil]

theorem words_unbroken {w : List Char} (hne : w ≠ []) (hw : ∀ c ∈ w, isBlank c = false) :
    words w = [w] := by
  -- a blank behind the word changes nothing
  have hblank : isBlank ' ' = true := by decide
  have hone := words_append_blank hne hw hblank []
  rwa [words_append_cons hblank, words_nil, List.append_nil] at hone

theorem words_append_of_head? {w b : List Char} (hne : w ≠ []) (hw : ∀ c ∈ w, isBlank c = false)
    (hb : ∀ c ∈ b.head?, isBlank c = true) : words (w ++ b) = w :: words b := by
  cases b with
  | nil => rw [List.append_nil, words_unbroken hne hw, words_nil]
  | cons c b =>
    have hc : isBlank c = true := hb c (by simp)
    rw [words_append_blank hne hw hc, words_cons_blank hc]

/-! ## Standing words -/

namespace WordAt

variable {s a w b : List Char}

/-- **A word that stands in a text** is the next one behind the words in front of it. -/
theorem words_eq (h : WordAt s a w b) : words s = words a ++ w :: words b := by
  rw [h.text_eq, List.append_assoc, words_append_of_getLast? h.before,
    words_append_of_head? h.ne_nil h.unbroken h.behind]

theorem mem_words (h : WordAt s a w b) : w ∈ words s := by
  rw [h.words_eq]
  exact List.mem_append_right _ List.mem_cons_self

theorem append_left (h : WordAt s a w b) (front : List Char)
    (hfront : a = [] → ∀ c ∈ front.getLast?, isBlank c = true) :
    WordAt (front ++ s) (front ++ a) w b where
  text_eq := by rw [h.text_eq, List.append_assoc, List.append_assoc, List.append_assoc]
  ne_nil := h.ne_nil
  unbroken := h.unbroken
  before := by
    by_cases ha : a = []
    · rw [ha, List.append_nil]
      exact hfront ha
    · rw [List.getLast?_append_of_ne_nil front ha]
      exact h.before
  behind := h.behind

theorem append_right (h : WordAt s a w b) (rest : List Char)
    (hrest : b = [] → ∀ c ∈ rest.head?, isBlank c = true) :
    WordAt (s ++ rest) a w (b ++ rest) where
  text_eq := by rw [h.text_eq, List.append_assoc]
  ne_nil := h.ne_nil
  unbroken := h.unbroken
  before := h.before
  behind := by
    by_cases hb : b = []
    · rw [hb, List.nil_append]
      exact hrest hb
    · rw [List.head?_append_of_ne_nil b hb]
      exact h.behind

/-- Nothing stands at the very start of a text that begins with a blank. -/
theorem front_ne_nil (h : WordAt s a w b) (hs : ∀ c ∈ s.head?, isBlank c = true) : a ≠ [] := by
  rintro rfl
  obtain ⟨c, w, rfl⟩ := List.exists_cons_of_ne_nil h.ne_nil
  have hblank : isBlank c = true := hs c (by simp [h.text_eq])
  rw [h.unbroken c List.mem_cons_self] at hblank
  cases hblank

/-- Nothing stands at the very end of a text that ends in a blank. -/
theorem rest_ne_nil (h : WordAt s a w b) (hs : ∀ c ∈ s.getLast?, isBlank c = true) : b ≠ [] := by
  rintro rfl
  obtain ⟨w, c, rfl⟩ := (List.eq_nil_or_concat w).resolve_left h.ne_nil
  have hblank : isBlank c = true := hs c (by simp [h.text_eq])
  rw [h.unbroken c (by simp)] at hblank
  cases hblank

end WordAt

theorem isBlank_head?_behind_word (s : List Char) :
    ∀ d ∈ (s.dropWhile fun d => !isBlank d).head?, isBlank d = true := by
  intro d hd
  have hstop := List.head?_dropWhile_not (fun d => !isBlank d) s
  rw [hd] at hstop
  simpa using hstop

theorem wordAt_first {c : Char} (hc : isBlank c = false) (s : List Char) :
    WordAt (c :: s) [] (c :: s.takeWhile fun d => !isBlank d) (s.dropWhile fun d => !isBlank d) where
  text_eq := by rw [List.nil_append, List.cons_append, List.takeWhile_append_dropWhile]
  ne_nil := List.cons_ne_nil _ _
  unbroken d hd := by
    rcases List.mem_cons.mp hd with rfl | hd
    · exact hc
    · simpa using List.mem_takeWhile_imp hd
  before := by simp
  behind := isBlank_head?_behind_word s

theorem exists_wordAt_of_mem_words {s w : List Char} (h : w ∈ words s) :
    ∃ a b, WordAt s a w b := by
  induction s using words_induction with
  | nil =>
    rw [words_nil] at h
    cases h
  | blank c s hc ih =>
    rw [words_cons_blank hc] at h
    obtain ⟨a, b, hw⟩ := ih h
    exact ⟨_, b, hw.append_left [c] fun _ => by simpa using hc⟩
  | word c s hc ih =>
    rw [words_cons_of_not_blank hc] at h
    rcases List.mem_cons.mp h with rfl | h
    · exact ⟨_, _, wordAt_first hc s⟩
    · obtain ⟨a, b, hw⟩ := ih h
      -- behind the first word there is a blank first, so the next one does not touch it
      have hne := hw.front_ne_nil (isBlank_head?_behind_word s)
      have hall := hw.append_left (c :: s.takeWhile fun d => !isBlank d) fun ha => absurd ha hne
      rw [List.cons_append, List.takeWhile_append_dropWhile] at hall
      exact ⟨_, b, hall⟩

/-- **The words of a text are what stands in it** as a word. -/
theorem mem_words_iff {s w : List Char} : w ∈ words s ↔ ∃ a b, WordAt s a w b := by
  constructor
  · exact exists_wordAt_of_mem_words
  · rintro ⟨a, b, h⟩
    exact h.mem_words

end ValidatorKeys.Text
