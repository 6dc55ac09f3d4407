import Mathlib.Data.List.TakeWhile
import ValidatorKeys.Proofs.Toml.Framing.Values

/-!
# What the reader of statements takes

A statement takes its line to the end, with the line ending, and with all lines over which its value
goes.  So it is decided by these lines alone, and it is read in the same way in front of any other
text, unless the text ends with it.

    ReadsTo s sts r   = from s the reader takes the statements sts and comes to r
-/

namespace ValidatorKeys.Toml

/-! ## Definitions -/

/-- A reader that is decided by the lines that it takes.  At the end of the text the last line may
lack its ending. -/
def LineFramed {α : Type} (read : List Char → Option (α × List Char)) : Prop :=
  ∀ s v r, read s = some (v, r) → ∃ u, s = u ++ r ∧ Clean u ∧
    (r = [] ∨ u.getLast? = some '\n') ∧
    ∀ u' r', Relines u u' → (r = [] → r' = []) → read (u' ++ r') = some (v, r')

def readStatement : List Char → Option (Statement × List Char)
  | '[' :: '[' :: r => readElement r
  | '[' :: r => readHeader r
  | s => readDefinition s

/-- From a text the reader takes statements, with the blank lines between them, and comes to another
one. -/
inductive ReadsTo : List Char → List Statement → List Char → Prop
  | refl (s : List Char) : ReadsTo s [] s
  | blank {s e t r : List Char} {sts : List Statement} : BlankLine e → skipSpaces s = e ++ t →
      ReadsTo t sts r → ReadsTo s sts r
  | statement {s t r : List Char} {st : Statement} {sts : List Statement} :
      readStatement (skipSpaces s) = some (st, t) → ReadsTo t sts r → ReadsTo s (st :: sts) r

/-- What may stand on the last line of a text behind its spaces, when it says nothing. -/
inductive LastLine : List Char → Prop
  | nil : LastLine []
  | comment {c : List Char} : (∀ x ∈ c, isCommentChar x = true) → LastLine ('#' :: c)

/-! ## Blank lines -/

theorem IsLineEnd.getLast? {e : List Char} (h : IsLineEnd e) : e.getLast? = some '\n' := by
  rcases h with rfl | rfl
  · rfl
  · rfl

theorem BlankLine.getLast? {e : List Char} (h : BlankLine e) : e.getLast? = some '\n' := by
  cases h with
  | lineEnd h => exact h.getLast?
  | comment _ he => rw [List.getLast?_append, he.getLast?]; rfl

theorem LastLine.ne {l : List Char} (h : LastLine l) : ∀ x ∈ l, x ≠ '\r' ∧ x ≠ '\n' := by
  cases h with
  | nil => simp
  | comment hc => exact comment_ne hc

theorem readLineEnd_eq_some {s r : List Char} (h : readLineEnd s = some r) :
    (∃ e, IsLineEnd e ∧ s = e ++ r) ∨ (s = [] ∧ r = []) := by
  unfold readLineEnd at h
  split at h
  · cases h
    exact Or.inr ⟨rfl, rfl⟩
  · cases h
    exact Or.inl ⟨['\n'], Or.inl rfl, rfl⟩
  · cases h
    exact Or.inl ⟨['\r', '\n'], Or.inr rfl, rfl⟩
  · cases h

theorem readLineEnd_append {e : List Char} (h : IsLineEnd e) (r : List Char) :
    readLineEnd (e ++ r) = some r := by
  rcases h with rfl | rfl
  · rfl
  · rfl

/-- A comment takes its line ending, or stands on the last line. -/
theorem readLineEnd_comment {c r : List Char}
    (h : readLineEnd (c.dropWhile isCommentChar) = some r) :
    (∃ e, BlankLine e ∧ '#' :: c = e ++ r) ∨ (LastLine ('#' :: c) ∧ r = []) := by
  rcases readLineEnd_eq_some h with ⟨e, he, heq⟩ | ⟨heq, rfl⟩
  · exact Or.inl (BlankLine.of_dropWhile he heq)
  · exact Or.inr ⟨.comment (List.dropWhile_eq_nil_iff.mp heq), rfl⟩

/-- What a line may end with behind a statement. -/
theorem readLineRest_eq_some {s r : List Char} (h : readLineRest s = some r) :
    (∃ e, BlankLine e ∧ skipSpaces s = e ++ r) ∨ (LastLine (skipSpaces s) ∧ r = []) := by
  unfold readLineRest at h
  split at h
  · next c heq =>
    rw [heq]
    exact readLineEnd_comment h
  · rcases readLineEnd_eq_some h with ⟨e, he, heq⟩ | ⟨heq, rfl⟩
    · exact Or.inl ⟨e, .lineEnd he, heq⟩
    · rw [heq]
      exact Or.inr ⟨.nil, rfl⟩

theorem readLineRest_blankLine {s e r : List Char} (he : BlankLine e)
    (h : skipSpaces s = e ++ r) : readLineRest s = some r := by
  rw [readLineRest, h]
  cases he with
  | lineEnd he =>
    rcases he with rfl | rfl
    · rfl
    · rfl
  | @comment c e hc he =>
    rw [List.append_assoc, List.cons_append]
    simp only [dropWhile_comment hc he]
    exact readLineEnd_append he r

theorem readLineRest_lastLine {s : List Char} (h : LastLine (skipSpaces s)) :
    readLineRest s = some [] := by
  rw [readLineRest]
  generalize skipSpaces s = t at h
  cases h with
  | nil => rfl
  | @comment c hc =>
    have : (c ++ []).dropWhile isCommentChar = [] := List.dropWhile_append_of_pos hc
    rw [List.append_nil] at this
    simp only [this]
    rfl

theorem lineFramed_readLineRest {α : Type} (a : α) :
    LineFramed fun s => (readLineRest s).bind fun r => some (a, r) := by
  intro s v r h
  obtain ⟨r₁, hr₁, heq⟩ := Option.bind_eq_some_iff.mp h
  cases heq
  obtain ⟨w, hw, hwclean, hskip⟩ := skipSpaces_frame s
  rcases readLineRest_eq_some hr₁ with ⟨e, he, heq⟩ | ⟨hlast, rfl⟩
  · refine ⟨w ++ e, ?_, hwclean.append he.clean, Or.inr ?_, fun u' r' hu' _ => ?_⟩
    · rw [List.append_assoc, ← heq]
      exact hw
    · rw [List.getLast?_append, he.getLast?]
      rfl
    · obtain ⟨w', e', rfl, hw', he'⟩ := hu'.append_inv hwclean
      have hspaces : skipSpaces (w' ++ e' ++ r') = e' ++ r' := by
        rw [List.append_assoc]
        exact hskip w' _ hw' (heq ▸ .append he' (Or.inl he.mem))
      dsimp only
      rw [readLineRest_blankLine (he.relines he') hspaces]
      rfl
  · have hlastclean : Clean (skipSpaces s) := clean_of_forall fun x hx => (hlast.ne x hx).1
    refine ⟨s, (List.append_nil s).symm, ?_, Or.inl rfl, fun u' r' hu' hr => ?_⟩
    · rw [hw]
      exact hwclean.append hlastclean
    · obtain rfl := hr rfl
      rw [hw] at hu'
      obtain ⟨w', l, rfl, hw', hl⟩ := hu'.append_inv hwclean
      have hline : SameLine (skipSpaces s) l := by
        have := SameLine.append hl (Or.inr .nil)
        rwa [List.append_nil, List.append_nil] at this
      have hspaces : skipSpaces (w' ++ l ++ []) = skipSpaces s := by
        rw [List.append_nil, hskip w' l hw' hline, hl.eq_of_forall fun x hx => (hlast.ne x hx).1]
      dsimp only
      rw [readLineRest_lastLine (by rw [hspaces]; exact hlast)]
      rfl

/-! ## Statements -/

theorem SameLine.of_lines {u u' r r' : List Char} (hu : Relines u u')
    (hr : r = [] ∨ u.getLast? = some '\n') (hr' : r = [] → r' = []) :
    SameLine (u ++ r) (u' ++ r') := by
  refine .append hu ?_
  rcases hr with rfl | hr
  · rw [hr' rfl]
    exact Or.inr .nil
  · exact Or.inl (List.mem_of_getLast? hr)

theorem Framed.lines {α β : Type} {f : List Char → Option (α × List Char)}
    {g : α → List Char → Option (β × List Char)} (hf : Framed f) (hg : ∀ a, LineFramed (g a)) :
    LineFramed fun s => (f s).bind fun x => g x.1 x.2 := by
  intro s v r h
  obtain ⟨⟨a, s₁⟩, hfs, hgs⟩ := Option.bind_eq_some_iff.mp h
  obtain ⟨u₁, rfl, hu₁, hf'⟩ := hf _ _ _ hfs
  obtain ⟨u₂, rfl, hu₂, hr, hg'⟩ := hg a _ _ _ hgs
  refine ⟨u₁ ++ u₂, (List.append_assoc ..).symm, hu₁.append hu₂, ?_, fun u' r' hu hr' => ?_⟩
  · refine hr.imp id fun hlast => ?_
    rw [List.getLast?_append, hlast]
    rfl
  · obtain ⟨u₁', u₂', rfl, h₁, h₂⟩ := hu.append_inv hu₁
    dsimp only
    rw [List.append_assoc, hf' u₁' _ h₁ (.of_lines h₂ hr hr')]
    exact hg' u₂' r' h₂ hr'

theorem LineFramed.readChar {α : Type} {f : List Char → Option (α × List Char)}
    (hf : LineFramed f) {c : Char} (hc : c ≠ '\r') :
    LineFramed fun s => (readChar c s).bind f := by
  have hread : Framed fun s => (Toml.readChar c s).bind fun r => some ((), r) :=
    (framed_pure ()).readChar hc
  have := hread.lines fun _ => hf
  have heq : (fun s => ((Toml.readChar c s).bind fun r => some ((), r)).bind fun x => f x.2) =
      fun s => (Toml.readChar c s).bind f := by
    funext s
    cases Toml.readChar c s with
    | none => rfl
    | some r => rfl
  rwa [heq] at this

theorem lineFramed_readHeader : LineFramed readHeader :=
  framed_readKey.lines fun k =>
    (lineFramed_readLineRest (Statement.header k.1 k.2)).readChar (by decide)

theorem lineFramed_readElement : LineFramed readElement :=
  framed_readKey.lines fun k =>
    ((lineFramed_readLineRest (Statement.element k.1 k.2)).readChar (by decide)).readChar (by decide)

theorem lineFramed_readDefinition : LineFramed readDefinition := by
  have hvalue : ∀ k : List String × String, LineFramed fun s =>
      (readValue (nestingLimit - 1) (skipSpaces s)).bind fun x =>
        (readLineRest x.2).bind fun r => some (Statement.definition k.1 k.2 x.1, r) := fun k =>
    (framed_readValue (nestingLimit - 1)).skipSpaces.lines fun v =>
      lineFramed_readLineRest (Statement.definition k.1 k.2 v)
  exact framed_readKey.lines fun k => (hvalue k).readChar (by decide)

theorem lineFramed_behind {f read : List Char → Option (Statement × List Char)}
    (hf : LineFramed f) {s r : List Char} {st : Statement} {p : List Char → Prop}
    (hp : ∀ {s t}, SameLine s t → p s → p t) (hread : ∀ t, p t → read ('[' :: t) = f t)
    (hs : p s) (h : read ('[' :: s) = some (st, r)) :
    ∃ u, '[' :: s = u ++ r ∧ Clean u ∧ (r = [] ∨ u.getLast? = some '\n') ∧
      ∀ u' r', Relines u u' → (r = [] → r' = []) → read (u' ++ r') = some (st, r') := by
  rw [hread s hs] at h
  obtain ⟨u, rfl, hu, hr, hf'⟩ := hf _ _ _ h
  refine ⟨'[' :: u, rfl, hu.cons (by decide), ?_, fun u' r' hu' hr' => ?_⟩
  · refine hr.imp id fun hlast => ?_
    rw [List.getLast?_cons, hlast]
    rfl
  · obtain ⟨u₁, rfl, hu₁⟩ := hu'.cons_inv (by decide)
    exact (hread _ (hp (.of_lines hu₁ hr hr') hs)).trans (hf' u₁ r' hu₁ hr')

/-- **Reading a statement**: it is decided by the lines that it takes. -/
theorem lineFramed_readStatement : LineFramed readStatement := by
  have hsame : ∀ {s t : List Char}, SameLine s t → (∀ r, s ≠ '[' :: r) → ∀ r, t ≠ '[' :: r := by
    rintro s t h hs r rfl
    obtain ⟨s₀, rfl, -⟩ := h.of_cons_right (by decide) (by decide)
    exact hs s₀ rfl
  have hheader : ∀ t, (∀ r, t ≠ '[' :: r) → readStatement ('[' :: t) = readHeader t := by
    intro t ht
    unfold readStatement
    split
    · next r heq =>
      cases heq
      exact absurd rfl (ht r)
    · next heq => cases heq; rfl
    · next h₁ h₂ => exact absurd rfl (h₂ t)
  have hdefinition : ∀ t, (∀ r, t ≠ '[' :: r) → readStatement t = readDefinition t := by
    intro t ht
    unfold readStatement
    split
    · next r => exact absurd rfl (ht _)
    · next r _ => exact absurd rfl (ht _)
    · rfl
  intro s st r h
  by_cases hs : ∃ t, s = '[' :: t
  · obtain ⟨t, rfl⟩ := hs
    by_cases ht : ∃ t', t = '[' :: t'
    · refine lineFramed_behind (lineFramed_readElement.readChar (c := '[') (by decide))
        (p := fun t => ∃ t', t = '[' :: t') ?_ ?_ ht h
      · rintro _ t hsame ⟨t', rfl⟩
        obtain ⟨t₀, rfl, -⟩ := hsame.of_cons (by decide) (by decide)
        exact ⟨t₀, rfl⟩
      · rintro _ ⟨t', rfl⟩
        rfl
    · exact lineFramed_behind lineFramed_readHeader hsame hheader (fun r hr => ht ⟨r, hr⟩) h
  · have hs : ∀ t, s ≠ '[' :: t := fun t heq => hs ⟨t, heq⟩
    rw [hdefinition s hs] at h
    obtain ⟨u, rfl, hu, hr, hread⟩ := lineFramed_readDefinition _ _ _ h
    refine ⟨u, rfl, hu, hr, fun u' r' hu' hr' => ?_⟩
    rw [hdefinition _ (hsame (.of_lines hu' hr hr') hs)]
    exact hread u' r' hu' hr'

/-! ## Steps of the reader -/

theorem readStatement_ne {s r : List Char} {st : Statement} (h : readStatement s = some (st, r)) :
    s ≠ [] ∧ (∀ t, s ≠ '\n' :: t) ∧ (∀ t, s ≠ '\r' :: t) ∧ ∀ t, s ≠ '#' :: t := by
  refine ⟨?_, ?_, ?_, ?_⟩
  · rintro rfl
    cases h
  · rintro t rfl
    cases h
  · rintro t rfl
    cases h
  · rintro t rfl
    cases h

/-- Behind spaces the reader finds the end of the text, a blank line or a statement. -/
theorem readStatements_succ (n : Nat) (s : List Char) :
    readStatements (n + 1) s =
      match skipSpaces s with
      | [] => some []
      | '\n' :: r => readStatements n r
      | '\r' :: '\n' :: r => readStatements n r
      | '#' :: c => (readLineEnd (c.dropWhile isCommentChar)).bind (readStatements n)
      | t => (readStatement t).bind fun x => (readStatements n x.2).map (x.1 :: ·) := by
  have hbind : ∀ first : Option (Statement × List Char),
      (first.bind fun x => (readStatements n x.2).bind fun sts => some (x.1 :: sts)) =
        first.bind fun x => (readStatements n x.2).map (x.1 :: ·) := fun first =>
    congrArg first.bind (funext fun x => (Option.map_eq_bind (x := readStatements n x.2)).symm)
  rw [readStatements]
  generalize skipSpaces s = t
  split
  · rfl
  · rfl
  · rfl
  · next c =>
    change _ = (readLineEnd (c.dropWhile isCommentChar)).bind (readStatements n)
    cases readLineEnd (c.dropWhile isCommentChar) with
    | none => rfl
    | some r => rfl
  · exact hbind _
  · next r hr =>
    change _ = (readStatement ('[' :: r)).bind _
    rw [readStatement]
    · exact hbind _
    · exact hr
  · next hnil hnewline hreturn hcomment hbrackets hbracket =>
    split
    · exact (hnil rfl).elim
    · exact (hnewline _ rfl).elim
    · exact (hreturn _ rfl).elim
    · exact (hcomment _ rfl).elim
    · rw [readStatement]
      · exact hbind _
      · exact hbrackets
      · exact hbracket

theorem readStatements_statement {s t : List Char} {st : Statement}
    (h : readStatement (skipSpaces s) = some (st, t)) (n : Nat) :
    readStatements (n + 1) s = (readStatements n t).map (st :: ·) := by
  obtain ⟨hnil, hnewline, hreturn, hcomment⟩ := readStatement_ne h
  rw [readStatements_succ]
  split
  · next heq => exact absurd heq hnil
  · next heq => exact absurd heq (hnewline _)
  · next heq => exact absurd heq (hreturn _)
  · next heq => exact absurd heq (hcomment _)
  · rw [h]
    rfl

theorem readStatements_blankLine {s e t : List Char} (he : BlankLine e)
    (h : skipSpaces s = e ++ t) (n : Nat) : readStatements (n + 1) s = readStatements n t := by
  rw [readStatements_succ, h]
  cases he with
  | lineEnd he =>
    rcases he with rfl | rfl
    · rfl
    · rfl
  | @comment c e hc he =>
    rw [List.append_assoc, List.cons_append]
    simp only [dropWhile_comment hc he, readLineEnd_append he t, Option.bind_some]

theorem readStatements_lastLine {s : List Char} (h : LastLine (skipSpaces s)) {n : Nat}
    (hn : s.length < n) : readStatements n s = some [] := by
  obtain ⟨n, rfl⟩ : ∃ k, n = k + 1 := ⟨n - 1, by omega⟩
  have hlen : (skipSpaces s).length ≤ s.length := (List.dropWhile_suffix _).length_le
  rw [readStatements_succ]
  generalize skipSpaces s = t at h hlen
  cases h with
  | nil => rfl
  | @comment c hc =>
    rw [List.length_cons] at hlen
    obtain ⟨n, rfl⟩ : ∃ k, n = k + 1 := ⟨n - 1, by omega⟩
    simp only [List.dropWhile_eq_nil_iff.mpr hc]
    rfl

/-- What the reader of statements can do next. -/
theorem readStatements_cases {n : Nat} {s : List Char} {sts : List Statement}
    (h : readStatements (n + 1) s = some sts) :
    (LastLine (skipSpaces s) ∧ sts = []) ∨
    (∃ e t, BlankLine e ∧ skipSpaces s = e ++ t ∧ readStatements n t = some sts) ∨
    ∃ st t sts', readStatement (skipSpaces s) = some (st, t) ∧ readStatements n t = some sts' ∧
      sts = st :: sts' := by
  rw [readStatements_succ] at h
  generalize skipSpaces s = t at *
  split at h
  · cases h
    exact Or.inl ⟨.nil, rfl⟩
  · exact Or.inr (Or.inl ⟨_, _, .lineEnd (Or.inl rfl), rfl, h⟩)
  · exact Or.inr (Or.inl ⟨_, _, .lineEnd (Or.inr rfl), rfl, h⟩)
  · obtain ⟨r, hr, h⟩ := Option.bind_eq_some_iff.mp h
    rcases readLineEnd_comment hr with ⟨e, he, heq⟩ | ⟨hlast, rfl⟩
    · exact Or.inr (Or.inl ⟨e, r, he, heq, h⟩)
    · refine Or.inl ⟨hlast, ?_⟩
      cases n with
      | zero => cases h
      | succ n => cases h; rfl
  · obtain ⟨⟨st, t⟩, hst, h⟩ := Option.bind_eq_some_iff.mp h
    obtain ⟨sts', hsts, rfl⟩ := Option.map_eq_some_iff.mp h
    exact Or.inr (Or.inr ⟨st, t, sts', hst, hsts, rfl⟩)

theorem length_readStatement {s t : List Char} {st : Statement}
    (h : readStatement s = some (st, t)) : t.length < s.length := by
  have hne := (readStatement_ne h).1
  obtain ⟨u, rfl, -, ht, -⟩ := lineFramed_readStatement _ _ _ h
  have hu : u ≠ [] := by
    rintro rfl
    rcases ht with rfl | ht
    · exact hne rfl
    · cases ht
  have := List.length_pos_iff.mpr hu
  rw [List.length_append]
  omega

/-- A text is read as the statements that are taken, and those that follow. -/
theorem ReadsTo.back {s r : List Char} {a c : List Statement} (h : ReadsTo s a r)
    (hr : ∀ k, r.length < k → readStatements k r = some c) {k : Nat} (hk : s.length < k) :
    readStatements k s = some (a ++ c) := by
  have hspaces : ∀ s : List Char, (skipSpaces s).length ≤ s.length := fun s =>
    (List.dropWhile_suffix _).length_le
  induction h generalizing k with
  | refl s => exact hr k hk
  | @blank s e t r sts he heq _ ih =>
    have hlen := hspaces s
    rw [heq, List.length_append] at hlen
    have := he.length_pos
    obtain ⟨k, rfl⟩ : ∃ m, k = m + 1 := ⟨k - 1, by omega⟩
    rw [readStatements_blankLine he heq]
    exact ih hr (by omega)
  | @statement s t r st sts hst _ ih =>
    have := hspaces s
    have := length_readStatement hst
    obtain ⟨k, rfl⟩ : ∃ m, k = m + 1 := ⟨k - 1, by omega⟩
    rw [readStatements_statement hst, ih hr (by omega)]
    rfl

theorem ReadsTo.trans {s t r : List Char} {a b : List Statement} (h : ReadsTo s a t)
    (ht : ReadsTo t b r) : ReadsTo s (a ++ b) r := by
  induction h with
  | refl s => exact ht
  | blank he heq _ ih => exact .blank he heq (ih ht)
  | statement hst _ ih => exact .statement hst (ih ht)

/-- **The reader of statements** is decided by the lines that it takes: behind other line endings
and in front of another text it comes to that text. -/
theorem ReadsTo.frame {s r : List Char} {sts : List Statement} (h : ReadsTo s sts r) :
    ∃ u, s = u ++ r ∧ Clean u ∧ (u = [] ∨ r = [] ∨ u.getLast? = some '\n') ∧
      ∀ u' r', Relines u u' → (r = [] → r' = []) → ReadsTo (u' ++ r') sts r' := by
  -- a step takes `w ++ l`, spaces in front of lines `l`, and the reader goes on behind it
  have hstep : ∀ {s l t r : List Char} {sts sts' : List Statement}, skipSpaces s = l ++ t →
      Clean l → (t = [] ∨ l.getLast? = some '\n') →
      (∀ s' l' t', Relines l l' → (t = [] → t' = []) → skipSpaces s' = l' ++ t' →
        ∀ r, ReadsTo t' sts r → ReadsTo s' sts' r) →
      (∃ u, t = u ++ r ∧ Clean u ∧ (u = [] ∨ r = [] ∨ u.getLast? = some '\n') ∧
        ∀ u' r', Relines u u' → (r = [] → r' = []) → ReadsTo (u' ++ r') sts r') →
      ∃ u, s = u ++ r ∧ Clean u ∧ (u = [] ∨ r = [] ∨ u.getLast? = some '\n') ∧
        ∀ u' r', Relines u u' → (r = [] → r' = []) → ReadsTo (u' ++ r') sts' r' := by
    rintro s l t r sts sts' heq hl ht hgo ⟨u, rfl, hu, hlast, hread⟩
    obtain ⟨w, hw, hwclean, hskip⟩ := skipSpaces_frame s
    refine ⟨w ++ (l ++ u), ?_, hwclean.append (hl.append hu), ?_, fun u' r' hu' hr' => ?_⟩
    · rw [List.append_assoc, List.append_assoc, ← heq]
      exact hw
    · have hlines : ∀ x : List Char, x.getLast? = some '\n' → (w ++ x).getLast? = some '\n' := by
        intro x hx
        rw [List.getLast?_append, hx]
        rfl
      rcases hlast with rfl | rfl | hlast
      · rcases ht with ht | ht
        · exact Or.inr (Or.inl ht)
        · exact Or.inr (Or.inr (hlines _ (by rwa [List.append_nil])))
      · exact Or.inr (Or.inl rfl)
      · refine Or.inr (Or.inr (hlines _ ?_))
        rw [List.getLast?_append, hlast]
        rfl
    · obtain ⟨w', x, rfl, hw', hx⟩ := hu'.append_inv hwclean
      obtain ⟨l', u₁, rfl, hl', hu₁⟩ := hx.append_inv hl
      have hnil : u ++ r = [] → u₁ ++ r' = [] := by
        intro h
        obtain ⟨rfl, rfl⟩ := List.append_eq_nil_iff.mp h
        cases hu₁
        rw [hr' rfl]
        rfl
      refine hgo _ l' (u₁ ++ r') hl' hnil ?_ r' (hread u₁ r' hu₁ hr')
      rw [List.append_assoc, List.append_assoc]
      exact hskip w' _ hw' (heq ▸ .of_lines hl' ht hnil)
  induction h with
  | refl s =>
    refine ⟨[], rfl, .nil, Or.inl rfl, fun u' r' hu' _ => ?_⟩
    cases hu'
    exact .refl r'
  | blank he heq _ ih =>
    exact hstep heq he.clean (Or.inr he.getLast?)
      (fun s' l' t' hl' _ hs' r hr => .blank (he.relines hl') hs' hr) ih
  | statement hst _ ih =>
    obtain ⟨l, heq, hl, ht, hread⟩ := lineFramed_readStatement _ _ _ hst
    exact hstep heq hl ht
      (fun s' l' t' hl' ht' hs' r hr => .statement (by rw [hs']; exact hread l' t' hl' ht') hr) ih

/-- A document is taken up to its last line, which says nothing. -/
theorem exists_readsTo_of_readStatements {n : Nat} {s : List Char} {sts : List Statement}
    (h : readStatements n s = some sts) : ∃ r, ReadsTo s sts r ∧ LastLine (skipSpaces r) := by
  induction n generalizing s sts with
  | zero => cases h
  | succ n ih =>
    rcases readStatements_cases h with
      ⟨hlast, rfl⟩ | ⟨e, t, he, heq, ht⟩ | ⟨st, t, sts', hst, ht, rfl⟩
    · exact ⟨s, .refl s, hlast⟩
    · obtain ⟨r, hr, hlast⟩ := ih ht
      exact ⟨r, .blank he heq hr, hlast⟩
    · obtain ⟨r, hr, hlast⟩ := ih ht
      exact ⟨r, .statement hst hr, hlast⟩

/-- A document is read in the same way with other line endings. -/
theorem readStatements_relines {n : Nat} {s : List Char} {sts : List Statement}
    (h : readStatements n s = some sts) : Clean s ∧ ∀ s', Relines s s' → ∀ k, s'.length < k →
      readStatements k s' = some sts := by
  obtain ⟨r, hr, hlast⟩ := exists_readsTo_of_readStatements h
  obtain ⟨u, rfl, hu, -, hread⟩ := hr.frame
  have hreturn : ∀ x ∈ r, x ≠ '\r' := by
    intro x hx
    rw [← List.takeWhile_append_dropWhile (p := fun c => c = ' ' || c = '\t') (l := r)] at hx
    rcases List.mem_append.mp hx with hx | hx
    · rintro rfl
      have := List.all_eq_true.mp List.all_takeWhile _ hx
      revert this
      decide
    · exact (hlast.ne x hx).1
  refine ⟨hu.append (clean_of_forall hreturn), fun s' hs' k hk => ?_⟩
  obtain ⟨u', r', rfl, hu', hr'⟩ := hs'.append_inv hu
  rw [hr'.eq_of_forall hreturn] at hk ⊢
  have := (hread u' r hu' id).back (fun k hk => readStatements_lastLine hlast hk) hk
  rwa [List.append_nil] at this

end ValidatorKeys.Toml
