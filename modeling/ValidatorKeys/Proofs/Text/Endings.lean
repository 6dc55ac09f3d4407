import ValidatorKeys.Proofs.Text.Lines

/-!
# Line endings

A text is the sequence of its lines with their endings.  When every ending is turned into a line
feed, how far the text stays as it was is told by the endings alone.

    text                    = the lines of the text, each with its ending
    lines (l ++ "\n" ++ …)   = asRead l :: lines …             for an l without line feeds
    wholeLines ls <+: …     ↔ every line of ls ends in a line feed          (in front)
    wholeLines ls <:+ …     ↔ no line of ls ends in a carriage return       (at the end)
-/

namespace ValidatorKeys.Text

/-! ## Definitions -/

/-- What stands behind a line. -/
inductive Ending where
  | lineFeed
  | returnAndFeed
  | missing
  deriving Repr, DecidableEq

def Ending.chars : Ending → List Char
  | .lineFeed => ['\n']
  | .returnAndFeed => ['\r', '\n']
  | .missing => []

def Ending.unix : Ending → List Char
  | .missing => []
  | _ => ['\n']

/-- A line and its ending. -/
structure Line where
  text : List Char
  ending : Ending
  deriving Repr, DecidableEq

def splitLines : List Char → List Line
  | [] => []
  | '\n' :: r => ⟨[], .lineFeed⟩ :: splitLines r
  | '\r' :: '\n' :: r => ⟨[], .returnAndFeed⟩ :: splitLines r
  | c :: r =>
    match splitLines r with
    | [] => [⟨[c], .missing⟩]
    | l :: ls => ⟨c :: l.text, l.ending⟩ :: ls

/-- Lines as they stand in the text. -/
def wholeLines (ls : List Line) : List Char := ls.flatMap fun l => l.text ++ l.ending.chars

/-- Lines with line feeds as their endings. -/
def unixLines (ls : List Line) : List Char := ls.flatMap fun l => l.text ++ l.ending.unix

/-- A line as it is read where it was written: a carriage return at its end goes with the line
feed. -/
def asRead (l : List Char) : List Char := if l.getLast? = some '\r' then l.dropLast else l

/-- The line feed behind the last of the lines, if it has one. -/
def lastEnding (ls : List Line) : List Char :=
  match ls.getLast? with
  | none => []
  | some l => l.ending.unix

@[simp] theorem wholeLines_append (ls ms : List Line) :
    wholeLines (ls ++ ms) = wholeLines ls ++ wholeLines ms := List.flatMap_append

@[simp] theorem wholeLines_cons (l : Line) (ls : List Line) :
    wholeLines (l :: ls) = l.text ++ (l.ending.chars ++ wholeLines ls) := by
  rw [wholeLines, List.flatMap_cons, List.append_assoc]
  rfl

@[simp] theorem unixLines_cons (l : Line) (ls : List Line) :
    unixLines (l :: ls) = l.text ++ (l.ending.unix ++ unixLines ls) := by
  rw [unixLines, List.flatMap_cons, List.append_assoc]
  rfl

theorem lastEnding_cons (l : Line) {ls : List Line} (h : ls ≠ []) :
    lastEnding (l :: ls) = lastEnding ls := by
  rw [lastEnding, lastEnding, List.getLast?_cons_of_ne_nil h]

/-! ## Splitting -/

/-- **A text is the sequence of its lines.** -/
theorem wholeLines_splitLines (s : List Char) : wholeLines (splitLines s) = s := by
  fun_induction splitLines s with
  | case1 => rfl
  | case2 r ih => simp [Ending.chars, ih]
  | case3 r ih => simp [Ending.chars, ih]
  | case4 c r hn hr heq ih =>
    rw [heq] at ih
    subst ih
    rfl
  | case5 c r hn hr l ls heq ih =>
    rw [heq] at ih
    simpa using ih

theorem map_text_splitLines (s : List Char) : (splitLines s).map Line.text = lines s := by
  fun_induction splitLines s with
  | case1 => rfl
  | case2 r ih => rw [List.map_cons, ih, lines_newline]
  | case3 r ih => rw [List.map_cons, ih, lines]
  | case4 c r hn hr heq ih =>
    rw [heq] at ih
    obtain rfl := lines_eq_nil ih.symm
    exact (lines_singleton fun hc => hn hc).symm
  | case5 c r hn hr l ls heq ih =>
    rw [heq, List.map_cons] at ih
    refine (lines_cons_of_ne (fun hc => hn hc) (fun hc hhead => ?_) ih.symm).symm
    obtain ⟨t, rfl⟩ := List.head?_eq_some_iff.mp hhead
    exact hr t hc rfl

/-- Only the last line of a text lacks its ending. -/
theorem pairwise_splitLines (s : List Char) :
    (splitLines s).Pairwise fun l _ => l.ending ≠ .missing := by
  fun_induction splitLines s with
  | case1 => exact .nil
  | case2 r ih => exact .cons (fun _ _ => by simp) ih
  | case3 r ih => exact .cons (fun _ _ => by simp) ih
  | case4 c r hn hr heq ih => exact List.pairwise_singleton _ _
  | case5 c r hn hr l ls heq ih =>
    rw [heq] at ih
    cases ih with
    | cons hl hls => exact .cons hl hls

theorem splitLines_ne_nil {s : List Char} (h : s ≠ []) : splitLines s ≠ [] := by
  intro hnil
  refine lines_ne_nil h ?_
  rw [← map_text_splitLines, hnil]
  rfl

/-! ## Endings -/

section

variable {ls : List Line}

theorem unixLines_eq_wholeLines (h : ∀ l ∈ ls, l.ending ≠ .returnAndFeed) :
    unixLines ls = wholeLines ls := by
  induction ls with
  | nil => rfl
  | cons l ls ih =>
    obtain ⟨hl, hls⟩ := List.forall_mem_cons.mp h
    rw [unixLines_cons, wholeLines_cons, ih hls]
    cases hending : l.ending with
    | lineFeed => rfl
    | returnAndFeed => exact absurd hending hl
    | missing => rfl

/-- Where lines stand in front of themselves with line feeds, no carriage return is lost. -/
theorem ending_ne_of_isPrefix {x y : List Char} (h : wholeLines ls ++ x <+: unixLines ls ++ y) :
    ∀ l ∈ ls, l.ending ≠ .returnAndFeed := by
  induction ls with
  | nil => simp
  | cons l ls ih =>
    rw [wholeLines_cons, unixLines_cons] at h
    simp only [List.append_assoc, List.prefix_append_right_inj] at h
    rw [List.forall_mem_cons]
    cases hending : l.ending with
    | lineFeed =>
      rw [hending] at h
      exact ⟨by simp, ih ((List.prefix_append_right_inj ['\n']).mp h)⟩
    | returnAndFeed =>
      rw [hending] at h
      have := (List.cons_prefix_cons.mp h).1
      exact absurd this (by decide)
    | missing =>
      rw [hending] at h
      exact ⟨by simp, ih h⟩

/-- **What stands in front stays** exactly when no carriage return is lost there. -/
theorem wholeLines_prefix_iff (t rest : List Char) :
    wholeLines ls ++ t <+: unixLines ls ++ (t ++ rest) ↔
      ∀ l ∈ ls, l.ending ≠ .returnAndFeed := by
  refine ⟨ending_ne_of_isPrefix, fun h => ?_⟩
  rw [unixLines_eq_wholeLines h, ← List.append_assoc]
  exact List.prefix_append _ _

theorem count_newline_unixLines (ls : List Line) :
    (unixLines ls).count '\n' = (wholeLines ls).count '\n' := by
  induction ls with
  | nil => rfl
  | cons l ls ih =>
    have hending : l.ending.unix.count '\n' = l.ending.chars.count '\n' := by
      cases l.ending <;> decide
    rw [unixLines_cons, wholeLines_cons]
    simp only [List.count_append, ih, hending]

theorem length_unixLines_le (ls : List Line) : (unixLines ls).length ≤ (wholeLines ls).length := by
  induction ls with
  | nil => exact Nat.le_refl _
  | cons l ls ih =>
    have hending : l.ending.unix.length ≤ l.ending.chars.length := by
      cases l.ending <;> decide
    rw [unixLines_cons, wholeLines_cons]
    simp only [List.length_append]
    omega

/-- **What stands at the end stays** exactly when no carriage return is lost there. -/
theorem wholeLines_suffix_iff (before : List Char) :
    wholeLines ls <:+ before ++ '\n' :: unixLines ls ↔ ∀ l ∈ ls, l.ending ≠ .returnAndFeed := by
  constructor
  · intro h
    -- both are ends of one text, and as they have the same number of line feeds, what the longer
    -- one has more holds none of them; but a line feed stands in front of the shorter one
    have hunix : unixLines ls <:+ before ++ '\n' :: unixLines ls :=
      ⟨before ++ ['\n'], by simp⟩
    obtain ⟨more, hmore⟩ := List.suffix_of_suffix_length_le hunix h (length_unixLines_le ls)
    have hnone : '\n' ∉ more := by
      have hcount := count_newline_unixLines ls
      rw [← hmore, List.count_append] at hcount
      exact List.count_eq_zero.mp (by omega)
    obtain rfl : more = [] := by
      rcases List.eq_nil_or_concat more with hnil | ⟨front, c, rfl⟩
      · exact hnil
      · obtain ⟨t, ht⟩ := h
        rw [← hmore] at ht
        have hc : (t ++ (front ++ [c])) ++ unixLines ls = (before ++ ['\n']) ++ unixLines ls := by
          simpa using ht
        have hc := List.append_cancel_right hc
        rw [← List.append_assoc] at hc
        have := (List.append_inj' hc rfl).2
        cases this
        simp at hnone
    refine ending_ne_of_isPrefix (x := []) (y := []) ?_
    rw [← hmore]
    simp
  · intro h
    rw [unixLines_eq_wholeLines h]
    exact ⟨before ++ ['\n'], by simp⟩

end

/-! ## Written lines -/

theorem lines_append_return {l : List Char} (h : '\n' ∉ l) (rest : List Char) :
    lines (l ++ '\r' :: '\n' :: rest) = l :: lines rest := by
  induction l with
  | nil => rw [List.nil_append, lines]
  | cons c l ih =>
    rw [List.mem_cons, not_or] at h
    refine lines_cons_of_ne (Ne.symm h.1) (fun _ hhead => ?_) (ih h.2)
    cases l with
    | nil => cases hhead
    | cons d l =>
      obtain rfl : d = '\n' := Option.some.inj hhead
      exact h.2 List.mem_cons_self

theorem lines_append_newline_asRead {l : List Char} (h : '\n' ∉ l) (rest : List Char) :
    lines (l ++ '\n' :: rest) = asRead l :: lines rest := by
  unfold asRead
  split
  · next hlast =>
    obtain ⟨front, rfl⟩ := List.getLast?_eq_some_iff.mp hlast
    rw [List.mem_append, not_or] at h
    rw [List.append_assoc, List.singleton_append, lines_append_return h.1, List.dropLast_concat]
  · next hlast => exact lines_append_newline ⟨h, hlast⟩ rest

/-- **Lines without line feeds are read back**, but for a carriage return at the end of each. -/
theorem lines_flatMap_asRead {ls : List (List Char)} (h : ∀ l ∈ ls, '\n' ∉ l) :
    lines (ls.flatMap fun l => l ++ ['\n']) = ls.map asRead := by
  induction ls with
  | nil => rfl
  | cons l ls ih =>
    rw [List.forall_mem_cons] at h
    rw [List.flatMap_cons, List.append_assoc, List.singleton_append,
      lines_append_newline_asRead h.1, ih h.2, List.map_cons]

/-- What a line starts with is not changed, if it holds no carriage return. -/
theorem isPrefixOf_asRead {p : List Char} (hp : '\r' ∉ p) (l : List Char) :
    p.isPrefixOf (asRead l) = p.isPrefixOf l := by
  unfold asRead
  split
  · next hlast =>
    obtain ⟨front, rfl⟩ := List.getLast?_eq_some_iff.mp hlast
    rw [List.dropLast_concat, Bool.eq_iff_iff, List.isPrefixOf_iff_prefix,
      List.isPrefixOf_iff_prefix, List.prefix_concat_iff]
    refine ⟨Or.inr, fun h => h.resolve_left ?_⟩
    rintro rfl
    exact hp (by simp)
  · rfl

end ValidatorKeys.Text
