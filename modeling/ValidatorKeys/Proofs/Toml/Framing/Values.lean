import ValidatorKeys.Proofs.Toml.Framing.Numbers

/-!
# What readers of values take

Arrays and inline tables are read with as much fuel as the text is long.  What they take is read
with any fuel that is enough for it, so the length of the text behind plays no part either.
-/

namespace ValidatorKeys.Toml

/-! ## Blank lines -/

def IsLineEnd (e : List Char) : Prop := e = ['\n'] ∨ e = ['\r', '\n']

/-- What may stand on a line that says nothing, behind its spaces: a comment or nothing, and the
line ending. -/
inductive BlankLine : List Char → Prop
  | lineEnd {e : List Char} : IsLineEnd e → BlankLine e
  | comment {c e : List Char} : (∀ x ∈ c, isCommentChar x = true) → IsLineEnd e →
      BlankLine ('#' :: c ++ e)

theorem IsLineEnd.clean {e : List Char} (h : IsLineEnd e) : Clean e := by
  rcases h with rfl | rfl
  · exact .char (by decide) .nil
  · exact .keep .nil

theorem IsLineEnd.mem {e : List Char} (h : IsLineEnd e) : '\n' ∈ e := by
  rcases h with rfl | rfl
  · decide
  · decide

theorem IsLineEnd.relines {e e' : List Char} (h : IsLineEnd e) (he : Relines e e') :
    IsLineEnd e' := by
  rcases h with rfl | rfl
  · obtain ⟨u, rfl, hu⟩ := he.cons_inv (by decide)
    cases hu
    exact Or.inl rfl
  · cases he with
    | change h =>
      cases h
      exact Or.inl rfl
    | keep h =>
      cases h
      exact Or.inr rfl
    | char hc _ => exact absurd rfl hc

/-- The text in front of which a line ending stands has one in front of every text with that line. -/
theorem IsLineEnd.of_sameLine {e s x : List Char} (h : IsLineEnd e) (hs : SameLine s (e ++ x)) :
    ∃ e₀ x₀, IsLineEnd e₀ ∧ s = e₀ ++ x₀ := by
  rcases h with rfl | rfl
  · cases hs with
    | newline t _ => exact ⟨['\n'], t, Or.inl rfl, rfl⟩
    | change t _ => exact ⟨['\r', '\n'], t, Or.inr rfl, rfl⟩
    | char _ hn _ => exact absurd rfl hn
  · cases hs with
    | keep t _ => exact ⟨['\r', '\n'], t, Or.inr rfl, rfl⟩
    | char hr _ _ => exact absurd rfl hr

theorem isCommentChar_ne {x : Char} (h : isCommentChar x = true) : x ≠ '\r' ∧ x ≠ '\n' := by
  constructor
  · rintro rfl
    revert h
    decide
  · rintro rfl
    revert h
    decide

theorem comment_ne {c : List Char} (h : ∀ x ∈ c, isCommentChar x = true) :
    ∀ x ∈ '#' :: c, x ≠ '\r' ∧ x ≠ '\n' := by
  intro x hx
  rcases List.mem_cons.mp hx with rfl | hx
  · decide
  · exact isCommentChar_ne (h x hx)

theorem BlankLine.clean {e : List Char} (h : BlankLine e) : Clean e := by
  cases h with
  | lineEnd h => exact h.clean
  | comment hc he => exact (clean_of_forall fun x hx => (comment_ne hc x hx).1).append he.clean

theorem BlankLine.mem {e : List Char} (h : BlankLine e) : '\n' ∈ e := by
  cases h with
  | lineEnd h => exact h.mem
  | comment _ he => exact List.mem_append_right _ he.mem

theorem BlankLine.length_pos {e : List Char} (h : BlankLine e) : 0 < e.length :=
  List.length_pos_of_mem h.mem

theorem BlankLine.relines {e e' : List Char} (h : BlankLine e) (he : Relines e e') :
    BlankLine e' := by
  cases h with
  | lineEnd h => exact .lineEnd (h.relines he)
  | comment hc hend =>
    have hreturn : ∀ x ∈ _, x ≠ '\r' := fun x hx => (comment_ne hc x hx).1
    obtain ⟨u, w, rfl, hu, hw⟩ := he.append_inv (clean_of_forall hreturn)
    rw [hu.eq_of_forall hreturn]
    exact .comment hc (hend.relines hw)

theorem BlankLine.of_sameLine {e s x : List Char} (h : BlankLine e) (hs : SameLine s (e ++ x)) :
    ∃ e₀ x₀, BlankLine e₀ ∧ s = e₀ ++ x₀ := by
  cases h with
  | lineEnd h =>
    obtain ⟨e₀, x₀, h₀, rfl⟩ := h.of_sameLine hs
    exact ⟨e₀, x₀, .lineEnd h₀, rfl⟩
  | @comment c e hc hend =>
    rw [List.append_assoc] at hs
    obtain ⟨s₀, rfl, hs₀⟩ := hs.of_append_right (comment_ne hc)
    obtain ⟨e₀, x₀, h₀, rfl⟩ := hend.of_sameLine hs₀
    exact ⟨'#' :: c ++ e₀, x₀, .comment hc h₀, by rw [List.append_assoc]⟩

/-- The comment that stands behind a hash, with the line ending behind it. -/
theorem BlankLine.of_dropWhile {c e t : List Char} (he : IsLineEnd e)
    (h : c.dropWhile isCommentChar = e ++ t) : ∃ e', BlankLine e' ∧ '#' :: c = e' ++ t := by
  refine ⟨'#' :: c.takeWhile isCommentChar ++ e,
    .comment (List.all_eq_true.mp List.all_takeWhile) he, ?_⟩
  rw [List.append_assoc, ← h, List.cons_append, List.takeWhile_append_dropWhile]

/-! ## Gaps -/

/-- Spaces are taken as they are. -/
theorem skipSpaces_frame (s : List Char) : ∃ u, s = u ++ skipSpaces s ∧ Clean u ∧
    ∀ u' r', Relines u u' → SameLine (skipSpaces s) r' → skipSpaces (u' ++ r') = r' := by
  have hspaces : Framed fun s => some ((), skipSpaces s) :=
    (framed_pure ()).dropWhile (p := fun c => c = ' ' || c = '\t') (by decide) (by decide)
  obtain ⟨u, hu, hclean, hframe⟩ := hspaces.at rfl
  exact ⟨u, hu, hclean, fun u' r' hu' hr =>
    (Prod.mk.inj (Option.some.inj (hframe u' r' hu' hr))).2⟩

theorem Framed.skipSpaces {α : Type} {f : List Char → Option (α × List Char)} (hf : Framed f) :
    Framed fun s => f (skipSpaces s) :=
  hf.dropWhile (by decide) (by decide)

theorem dropWhile_comment {c e t : List Char} (hc : ∀ x ∈ c, isCommentChar x = true)
    (he : IsLineEnd e) : (c ++ (e ++ t)).dropWhile isCommentChar = e ++ t := by
  rw [List.dropWhile_append_of_pos hc]
  rcases he with rfl | rfl
  · exact List.dropWhile_cons_of_neg (by decide)
  · exact List.dropWhile_cons_of_neg (by decide)

theorem skipGaps_blankLine {e s t : List Char} (he : BlankLine e) (h : skipSpaces s = e ++ t)
    (n : Nat) : skipGaps (n + 1) s = skipGaps n t := by
  rw [skipGaps, h]
  cases he with
  | lineEnd he =>
    rcases he with rfl | rfl
    · rfl
    · rfl
  | @comment c e hc he =>
    rw [List.append_assoc, List.cons_append]
    simp only [dropWhile_comment hc he]
    rcases he with rfl | rfl
    · rfl
    · rfl

/-- A gap ends where no blank line follows. -/
theorem skipGaps_of_no_blankLine {s : List Char}
    (h : ∀ e t, BlankLine e → skipSpaces s ≠ e ++ t) (n : Nat) :
    skipGaps (n + 1) s = skipSpaces s := by
  rw [skipGaps]
  split
  · next t heq => exact absurd heq (h ['\n'] t (.lineEnd (Or.inl rfl)))
  · next t heq => exact absurd heq (h ['\r', '\n'] t (.lineEnd (Or.inr rfl)))
  · next c heq =>
    have hcomment : ∀ e t, IsLineEnd e → c.dropWhile isCommentChar ≠ e ++ t := by
      intro e t he ht
      obtain ⟨e', he', heq'⟩ := BlankLine.of_dropWhile he ht
      exact h e' t he' (heq.trans heq')
    split
    · next t ht => exact absurd ht (hcomment ['\n'] t (Or.inl rfl))
    · next t ht => exact absurd ht (hcomment ['\r', '\n'] t (Or.inr rfl))
    · exact heq.symm
  · rfl

/-- Gaps are taken with all their line endings, with any fuel that is enough. -/
theorem skipGaps_frame {n : Nat} {s : List Char} (hn : s.length ≤ n) :
    ∃ u, s = u ++ skipGaps n s ∧ Clean u ∧ ∀ u' r' m, Relines u u' →
      SameLine (skipGaps n s) r' → (u' ++ r').length ≤ m → skipGaps m (u' ++ r') = r' := by
  induction n generalizing s with
  | zero =>
    obtain rfl := List.eq_nil_of_length_eq_zero (Nat.le_zero.mp hn)
    refine ⟨[], rfl, .nil, fun u' r' m hu hr _ => ?_⟩
    cases hu
    cases hr
    cases m with
    | zero => rfl
    | succ m => rfl
  | succ n ih =>
    obtain ⟨w, hw, hwclean, hskip⟩ := skipSpaces_frame s
    by_cases hblank : ∃ e t, BlankLine e ∧ skipSpaces s = e ++ t
    · obtain ⟨e, t, he, ht⟩ := hblank
      have hlen : t.length ≤ n := by
        have := he.length_pos
        rw [hw, ht, List.length_append, List.length_append] at hn
        omega
      obtain ⟨u, hu, hclean, hframe⟩ := ih hlen
      rw [skipGaps_blankLine he ht]
      refine ⟨w ++ (e ++ u), ?_, hwclean.append (he.clean.append hclean), ?_⟩
      · rw [List.append_assoc, List.append_assoc, ← hu, ← ht]
        exact hw
      · intro u' r' m hu' hr hm
        obtain ⟨w', x, rfl, hw', hx⟩ := hu'.append_inv hwclean
        obtain ⟨e', u₁, rfl, he', hu₁⟩ := hx.append_inv he.clean
        have hspaces : skipSpaces (w' ++ (e' ++ u₁) ++ r') = e' ++ (u₁ ++ r') := by
          rw [List.append_assoc, List.append_assoc]
          exact hskip w' _ hw' (ht ▸ .append he' (Or.inl he.mem))
        have := (he.relines he').length_pos
        simp only [List.length_append] at hm
        obtain ⟨m, rfl⟩ : ∃ k, m = k + 1 := ⟨m - 1, by omega⟩
        rw [skipGaps_blankLine (he.relines he') hspaces]
        exact hframe u₁ r' m hu₁ hr (by rw [List.length_append]; omega)
    · have hnone : ∀ e t, BlankLine e → skipSpaces s ≠ e ++ t := fun e t he ht =>
        hblank ⟨e, t, he, ht⟩
      rw [skipGaps_of_no_blankLine hnone]
      refine ⟨w, hw, hwclean, fun u' r' m hu' hr hm => ?_⟩
      have hspaces := hskip u' r' hu' hr
      cases m with
      | zero =>
        rw [List.length_append] at hm
        rw [skipGaps, List.eq_nil_of_length_eq_zero (l := u') (by omega), List.nil_append]
      | succ m =>
        rw [skipGaps_of_no_blankLine, hspaces]
        intro e t he ht
        rw [hspaces] at ht
        obtain ⟨e₀, t₀, he₀, hs⟩ := he.of_sameLine (ht ▸ hr)
        exact hnone e₀ t₀ he₀ hs

/-- A reader behind a gap. -/
theorem Framed.skipGaps {α : Type} {f : List Char → Option (α × List Char)} (hf : Framed f) :
    Framed fun s => f (skipGaps s.length s) := by
  refine framed_iff.mpr fun s v r h => ?_
  obtain ⟨w, hw, hwclean, hskip⟩ := skipGaps_frame (Nat.le_refl s.length)
  have hgap : FramedAt (fun s => some ((), Toml.skipGaps s.length s)) s ()
      (Toml.skipGaps s.length s) :=
    ⟨w, hw, hwclean, fun u' r' hu' hr =>
      congrArg (fun r => some ((), r)) (hskip u' r' _ hu' hr (Nat.le_refl _))⟩
  refine hgap.bind (hf.at h) fun s' s₁' r' _ h₁ h₂ => ?_
  obtain ⟨-, rfl⟩ := Prod.mk.inj (Option.some.inj h₁)
  exact h₂

/-! ## Loops -/

section Loop

variable {σ : Type} {step : σ → List Char → Option ((σ × Bool) × List Char)}

/-- Takes steps, at most `fuel` of them, until one says that it was the last. -/
def loop (step : σ → List Char → Option ((σ × Bool) × List Char)) :
    Nat → σ → List Char → Option (σ × List Char)
  | 0, _, _ => none
  | fuel + 1, a, s =>
    (step a s).bind fun x => if x.1.2 then loop step fuel x.1.1 x.2 else some (x.1.1, x.2)

/-- What a loop takes it takes with any fuel that is enough. -/
theorem loop_frame (hstep : ∀ a, Framed (step a))
    (hshort : ∀ a s x r, step a s = some (x, r) → r.length < s.length) {n : Nat} {a b : σ}
    {s r : List Char} (h : loop step n a s = some (b, r)) :
    ∃ u, s = u ++ r ∧ Clean u ∧ ∀ u' r' m, Relines u u' → SameLine r r' → u'.length ≤ m →
      loop step m a (u' ++ r') = some (b, r') := by
  induction n generalizing a s with
  | zero => cases h
  | succ n ih =>
    obtain ⟨⟨⟨a₁, more⟩, s₁⟩, hs₁, h⟩ := Option.bind_eq_some_iff.mp h
    obtain ⟨u, rfl, hu, hframe⟩ := hstep a _ _ _ hs₁
    cases more with
    | false =>
      cases h
      refine ⟨u, rfl, hu, fun u' r' m hu' hr hm => ?_⟩
      have hfirst := hframe u' r' hu' hr
      have hpos := hshort _ _ _ _ hfirst
      rw [List.length_append] at hpos
      obtain ⟨m, rfl⟩ : ∃ k, m = k + 1 := ⟨m - 1, by omega⟩
      rw [loop, hfirst]
      rfl
    | true =>
      obtain ⟨w, rfl, hw, hloop⟩ := ih h
      refine ⟨u ++ w, (List.append_assoc ..).symm, hu.append hw, fun u' r' m hu' hr hm => ?_⟩
      obtain ⟨u₁, w₁, rfl, hu₁, hw₁⟩ := hu'.append_inv hu
      have hfirst := hframe u₁ (w₁ ++ r') hu₁ (.append hw₁ (Or.inr hr))
      have hpos := hshort _ _ _ _ hfirst
      simp only [List.length_append] at hm hpos
      obtain ⟨m, rfl⟩ : ∃ k, m = k + 1 := ⟨m - 1, by omega⟩
      rw [List.append_assoc, loop, hfirst]
      exact hloop w₁ r' m hw₁ hr (by omega)

/-- A loop with as much fuel as the text is long. -/
theorem framed_loop (hstep : ∀ a, Framed (step a))
    (hshort : ∀ a s x r, step a s = some (x, r) → r.length < s.length) (extra : Nat) (a : σ) :
    Framed fun s => loop step (s.length + extra) a s := by
  intro s v r h
  obtain ⟨u, hu, hclean, hframe⟩ := loop_frame hstep hshort h
  refine ⟨u, hu, hclean, fun u' r' hu' hr => hframe u' r' _ hu' hr ?_⟩
  rw [List.length_append]
  omega

end Loop

/-! ## Arrays -/

/-- What follows an item, which is the last one or has a comma behind it. -/
def readEnd {α : Type} (close : Char) (a : α) : List Char → Option ((α × Bool) × List Char)
  | [] => none
  | c :: r =>
    if c = ',' then some ((a, true), r) else if c = close then some ((a, false), r) else none

theorem readEnd_eq_none {α : Type} {close : Char} {a : α} {s : List Char}
    (hcomma : ∀ r, s = ',' :: r → False) (hclose : ∀ r, s = close :: r → False) :
    readEnd close a s = none := by
  cases s with
  | nil => rfl
  | cons c r =>
    rw [readEnd, if_neg fun h => hcomma r (by rw [h]), if_neg fun h => hclose r (by rw [h])]

theorem framed_readEnd {α : Type} {close : Char} (hr : close ≠ '\r') (hn : close ≠ '\n') (a : α) :
    Framed (readEnd close a) := by
  have hclose : Framed fun t => readEnd close a ([close] ++ t) := by
    by_cases hc : close = ','
    · simpa [readEnd, hc] using framed_pure (a, true)
    · simpa [readEnd, hc] using framed_pure (a, false)
  refine framed_of_prefixes [[','], [close]] (by simp [hr, hn]) ⟨framed_pure (a, true), hclose⟩
    framed_none fun s hs => ?_
  exact readEnd_eq_none (fun r h => hs [','] (by simp) r h) fun r h => hs [close] (by simp) r h

theorem length_readEnd {α : Type} {close : Char} {a : α} {s r : List Char} {x : α × Bool}
    (h : readEnd close a s = some (x, r)) : r.length < s.length := by
  cases s with
  | nil => cases h
  | cons c s =>
    rw [readEnd] at h
    split at h
    · cases h
      simp
    · split at h
      · cases h
        simp
      · cases h

/-- One step of an array: the closing bracket, or an item behind those that were read. -/
def readItem (item : List Char → Option (Value × List Char)) (vs : List Value) :
    List Char → Option ((List Value × Bool) × List Char)
  | ']' :: r => some ((vs, false), r)
  | s => (item s).bind fun x => readEnd ']' (vs ++ [x.1]) (skipGaps x.2.length x.2)

theorem readItems_eq_loop (item : List Char → Option (Value × List Char)) (n : Nat)
    (vs : List Value) (s : List Char) :
    loop (fun vs s => readItem item vs (skipGaps s.length s)) n vs s =
      (readItems item n s).map fun x => (vs ++ x.1, x.2) := by
  induction n generalizing vs s with
  | zero => rfl
  | succ n ih =>
    rw [loop, readItems]
    split
    · next r heq =>
      rw [heq]
      simp [readItem]
    · next s' hs =>
      have hitem : readItem item vs (skipGaps s.length s) =
          (item (skipGaps s.length s)).bind fun x =>
            readEnd ']' (vs ++ [x.1]) (skipGaps x.2.length x.2) := by
        rw [readItem]
        exact hs
      rw [hitem]
      cases item (skipGaps s.length s) with
      | none => rfl
      | some x =>
        simp only [Option.bind_eq_bind, Option.bind_some]
        generalize skipGaps x.2.length x.2 = t
        split
        · next r =>
          simp only [readEnd, if_true, Option.bind_some, ih]
          cases readItems item n r with
          | none => rfl
          | some y => simp
        · next r => simp [readEnd]
        · next hcomma hclose => rw [readEnd_eq_none hcomma hclose]; rfl

/-- What a framed reader leaves is no longer than what it was given. -/
theorem Framed.length_le {α : Type} {f : List Char → Option (α × List Char)} (hf : Framed f)
    {s r : List Char} {v : α} (h : f s = some (v, r)) : r.length ≤ s.length := by
  obtain ⟨u, rfl, -⟩ := hf _ _ _ h
  rw [List.length_append]
  omega

theorem length_skipGaps_le (s : List Char) : (skipGaps s.length s).length ≤ s.length := by
  obtain ⟨u, hu, -⟩ := skipGaps_frame (Nat.le_refl s.length)
  have := congrArg List.length hu
  rw [List.length_append] at this
  omega

theorem framed_readItem {item : List Char → Option (Value × List Char)} (hitem : Framed item)
    (vs : List Value) : Framed (readItem item vs) := by
  have hend : ∀ v, Framed fun s => readEnd ']' (vs ++ [v]) (skipGaps s.length s) := fun v =>
    (framed_readEnd (by decide) (by decide) (vs ++ [v])).skipGaps
  refine framed_of_prefixes [[']']] (by simp) (framed_pure (vs, false)) (hitem.bind hend)
    fun s hs => ?_
  unfold readItem
  split
  · next r => exact absurd rfl (hs [']'] (by simp) r)
  · rfl

theorem length_readItem {item : List Char → Option (Value × List Char)} (hitem : Framed item)
    {vs : List Value} {s r : List Char} {x : List Value × Bool}
    (h : readItem item vs s = some (x, r)) : r.length < s.length := by
  unfold readItem at h
  split at h
  · cases h
    simp
  · obtain ⟨y, hy, h⟩ := Option.bind_eq_some_iff.mp h
    calc r.length < (skipGaps y.2.length y.2).length := length_readEnd h
      _ ≤ y.2.length := length_skipGaps_le y.2
      _ ≤ _ := hitem.length_le hy

theorem framed_readItems {item : List Char → Option (Value × List Char)} (hitem : Framed item) :
    Framed fun s => readItems item (s.length + 1) s := by
  have hloop : Framed fun s =>
      loop (fun vs s => readItem item vs (skipGaps s.length s)) (s.length + 1) [] s :=
    framed_loop (fun vs => (framed_readItem hitem vs).skipGaps)
      (fun vs s x r h => Nat.lt_of_lt_of_le (length_readItem hitem h) (length_skipGaps_le s)) 1 []
  simp only [readItems_eq_loop] at hloop
  simpa using hloop

/-! ## Inline tables -/

/-- One step of an inline table: a definition in the table as it is so far. -/
def readField (item : List Char → Option (Value × List Char)) (table : Section) (s : List Char) :
    Option ((Section × Bool) × List Char) :=
  (readKey s).bind fun k => (readChar '=' k.2).bind fun s => (item (skipSpaces s)).bind fun x =>
    (table.define k.1.1 k.1.2 x.1).bind fun table => readEnd '\x7d' table (skipSpaces x.2)

theorem readInlineFields_eq_loop (item : List Char → Option (Value × List Char)) (n : Nat)
    (table : Section) (s : List Char) :
    readInlineFields item n table s = loop (readField item) n table s := by
  induction n generalizing table s with
  | zero => rfl
  | succ n ih =>
    rw [loop, readInlineFields, readField]
    cases readKey s with
    | none => rfl
    | some k =>
      change (readChar '=' k.2).bind _ = _
      simp only [Option.bind_some]
      cases readChar '=' k.2 with
      | none => rfl
      | some s₁ =>
        simp only [Option.bind_some]
        cases item (skipSpaces s₁) with
        | none => rfl
        | some x =>
          change (table.define k.1.1 k.1.2 x.1).bind _ = _
          simp only [Option.bind_some]
          cases table.define k.1.1 k.1.2 x.1 with
          | none => rfl
          | some table' =>
            simp only [Option.bind_some]
            generalize skipSpaces x.2 = t
            split
            · exact ih _ _
            · rfl
            · next hcomma hclose => rw [readEnd_eq_none hcomma hclose]; rfl

theorem framed_readField {item : List Char → Option (Value × List Char)} (hitem : Framed item)
    (table : Section) : Framed (readField item table) := by
  have hend : ∀ (k : List String × String) (v : Value), Framed fun s =>
      (table.define k.1 k.2 v).bind fun table => readEnd '\x7d' table (skipSpaces s) := by
    intro k v
    cases table.define k.1 k.2 v with
    | none => exact framed_none
    | some t => exact (framed_readEnd (by decide) (by decide) t).skipSpaces
  have hvalue : ∀ k : List String × String, Framed fun s => (readChar '=' s).bind fun s =>
      (item (skipSpaces s)).bind fun x => (table.define k.1 k.2 x.1).bind fun table =>
        readEnd '\x7d' table (skipSpaces x.2) := fun k =>
    Framed.readChar (hitem.bind (hend k)).skipSpaces (by decide)
  exact framed_readKey.bind hvalue

theorem length_readField {item : List Char → Option (Value × List Char)} (hitem : Framed item)
    {table : Section} {s r : List Char} {x : Section × Bool}
    (h : readField item table s = some (x, r)) : r.length < s.length := by
  obtain ⟨k, hk, h⟩ := Option.bind_eq_some_iff.mp h
  obtain ⟨s₁, hs₁, h⟩ := Option.bind_eq_some_iff.mp h
  obtain ⟨y, hy, h⟩ := Option.bind_eq_some_iff.mp h
  obtain ⟨table', -, h⟩ := Option.bind_eq_some_iff.mp h
  have hspaces : ∀ s : List Char, (skipSpaces s).length ≤ s.length := fun s =>
    (List.dropWhile_suffix _).length_le
  have hequals : s₁.length ≤ k.2.length := by
    rw [eq_cons_of_readChar hs₁]
    exact Nat.le_succ _
  calc r.length < (skipSpaces y.2).length := length_readEnd h
    _ ≤ y.2.length := hspaces y.2
    _ ≤ (skipSpaces s₁).length := hitem.length_le hy
    _ ≤ s₁.length := hspaces s₁
    _ ≤ k.2.length := hequals
    _ ≤ s.length := framed_readKey.length_le hk

/-- Reads an inline table behind its brace and the spaces there. -/
def readInlineRest (item : List Char → Option (Value × List Char)) :
    List Char → Option (Value × List Char)
  | '\x7d' :: r => some (.table [], r)
  | s => (readInlineFields item s.length {} s).map fun x => (.table x.1.toTable, x.2)

theorem framed_readInlineTable {item : List Char → Option (Value × List Char)}
    (hitem : Framed item) : Framed (readInlineTable item) := by
  have hloop := framed_loop (framed_readField hitem) (fun _ _ _ _ => length_readField hitem) 0 {}
  simp only [← readInlineFields_eq_loop, Nat.add_zero] at hloop
  have hfields : Framed (readInlineRest item) := by
    refine framed_of_prefixes [['\x7d']] (by simp) (framed_pure (Value.table []))
      (hloop.map fun t => Value.table t.toTable) fun s hs => ?_
    unfold readInlineRest
    split
    · next r => exact absurd rfl (hs ['\x7d'] (by simp) r)
    · rfl
  exact hfields.skipSpaces

/-! ## Values -/

theorem framed_readPlain : Framed readPlain := by
  have hplain : Framed fun s =>
      if startsDate s || startsTime s then
        (readDateTime s).map fun x => (Value.dateTime x.1, x.2)
      else readNumber s :=
    framed_of_test (framed_readDateTime.map Value.dateTime) framed_readNumber
      (decided_startsDate.or decided_startsTime)
  refine framed_of_prefixes ["true".toList, "false".toList] (by simp)
    ⟨framed_pure (Value.boolean true), framed_pure (Value.boolean false)⟩ hplain fun s hs => ?_
  unfold readPlain
  split
  · next r => exact absurd rfl (hs "true".toList (by simp) r)
  · next r => exact absurd rfl (hs "false".toList (by simp) r)
  · rfl

def readUnquoted : Nat → List Char → Option (Value × List Char)
  | 0, '[' :: _ => none
  | 0, '\x7b' :: _ => none
  | depth + 1, '[' :: r =>
    (readItems (readValue depth) (r.length + 1) r).map fun x => (.array x.1, x.2)
  | depth + 1, '\x7b' :: r => readInlineTable (readValue depth) r
  | _, s => readPlain s

def startsString (s : List Char) : Bool := s.head?.any fun c => c = '"' || c = '\''

theorem decided_startsString : Decided startsString := by
  intro s hs
  cases s with
  | nil => cases hs
  | cons c t =>
    have hc : c = '"' ∨ c = '\'' := by simpa [startsString] using hs
    refine ⟨[c], t, rfl, fun d hd => ?_, fun t' => hs⟩
    rw [List.mem_singleton.mp hd]
    rcases hc with rfl | rfl
    · decide
    · decide

theorem readValue_eq (n : Nat) (s : List Char) : readValue n s =
    if startsString s then (readString s).map fun x => (Value.string (String.ofList x.1), x.2)
    else readUnquoted n s := by
  unfold readValue
  split
  · rfl
  · rfl
  · rfl
  · rfl
  · rfl
  · rfl
  · next h₁ h₂ _ _ _ _ =>
    rw [if_neg, readUnquoted]
    · assumption
    · assumption
    · assumption
    · assumption
    · cases s with
      | nil => simp [startsString]
      | cons c t =>
        simp only [startsString, List.head?_cons, Option.any_some, Bool.or_eq_true,
          decide_eq_true_eq, not_or]
        exact ⟨fun h => h₁ t (by rw [h]), fun h => h₂ t (by rw [h])⟩

theorem readUnquoted_eq_readPlain {n : Nat} {s : List Char}
    (h : ∀ front ∈ [['['], ['\x7b']], ∀ t, s ≠ front ++ t) : readUnquoted n s = readPlain s := by
  unfold readUnquoted
  split
  · next r => exact absurd rfl (h ['['] (by simp) r)
  · next r => exact absurd rfl (h ['\x7b'] (by simp) r)
  · next r => exact absurd rfl (h ['['] (by simp) r)
  · next r => exact absurd rfl (h ['\x7b'] (by simp) r)
  · rfl

theorem framed_readValue_of_brackets {n : Nat}
    (h : [['['], ['\x7b']].Forall fun front => Framed fun t => readUnquoted n (front ++ t)) :
    Framed (readValue n) := by
  have hstring : Framed fun s =>
      (readString s).map fun x => (Value.string (String.ofList x.1), x.2) :=
    framed_readString.map fun cs => Value.string (String.ofList cs)
  have hunquoted : Framed (readUnquoted n) :=
    framed_of_prefixes _ (by simp) h framed_readPlain fun s => readUnquoted_eq_readPlain
  simpa only [← readValue_eq] using framed_of_test hstring hunquoted decided_startsString

/-- **Reading a value**: it is decided by its own characters and the rest of its last line. -/
theorem framed_readValue (n : Nat) : Framed (readValue n) := by
  induction n with
  | zero => exact framed_readValue_of_brackets ⟨framed_none, framed_none⟩
  | succ n ih =>
    have hitems : Framed fun s =>
        (readItems (readValue n) (s.length + 1) s).map fun x => (Value.array x.1, x.2) :=
      (framed_readItems ih).map Value.array
    exact framed_readValue_of_brackets ⟨hitems, framed_readInlineTable ih⟩

end ValidatorKeys.Toml
