import ValidatorKeys.Proofs.Toml.Framing.Basic

/-!
# What readers of strings and keys take

A string on several lines takes its line endings with it, and reads each of them as a line feed,
however it is written.
-/

namespace ValidatorKeys.Toml

/-! ## Escapes -/

theorem consRead_eq_some {c : Char} {o : Option (List Char × List Char)} {v r : List Char} :
    consRead c o = some (v, r) ↔ ∃ cs, o = some (cs, r) ∧ v = c :: cs := by
  constructor
  · intro h
    cases o with
    | none => cases h
    | some x =>
      cases h
      exact ⟨x.1, rfl, rfl⟩
  · rintro ⟨cs, rfl, rfl⟩
    rfl

/-- A reader that puts what a character reads as in front of what is read behind it. -/
theorem FramedAt.cons {f : List Char → Option (List Char × List Char)} {c d : Char}
    {s cs r : List Char} (h : FramedAt f s cs r) (hc : c ≠ '\r')
    (hread : ∀ s', SameLine s s' → f (c :: s') = consRead d (f s')) :
    FramedAt f (c :: s) (d :: cs) r := by
  refine h.behind (e := [c]) (by simpa using hc) fun s' r' hline hf => ?_
  rw [List.singleton_append, hread s' hline, hf]
  rfl

theorem hexValue?_return : hexValue? '\r' = none := by decide

theorem mapM_hexValue? {s : List Char} {ds : List Nat} (h : s.mapM hexValue? = some ds) :
    ds.length = s.length ∧ ∀ c ∈ s, c ≠ '\r' := by
  induction s generalizing ds with
  | nil =>
    cases h
    simp
  | cons c s ih =>
    rw [List.mapM_cons] at h
    obtain ⟨d, hd, h⟩ := Option.bind_eq_some_iff.mp h
    obtain ⟨ds', hds, heq⟩ := Option.bind_eq_some_iff.mp h
    cases heq
    obtain ⟨hlen, hs⟩ := ih hds
    refine ⟨by rw [List.length_cons, List.length_cons, hlen], fun x hx => ?_⟩
    rcases List.mem_cons.mp hx with rfl | hx
    · rintro rfl
      rw [hexValue?_return] at hd
      cases hd
    · exact hs x hx

theorem hexChar?_take {n : Nat} {s : List Char} {c : Char} (h : hexChar? n s = some c) :
    (s.take n).length = n ∧ (∀ d ∈ s.take n, d ≠ '\r') ∧
      ∀ t, hexChar? n (s.take n ++ t) = some c := by
  unfold hexChar? at h
  split at h
  · next ds hds =>
    dsimp only at h
    split at h
    · next hcode =>
      obtain ⟨hds', hreturn⟩ := mapM_hexValue? hds
      have hlen : (s.take n).length = n := hds'.symm.trans hcode.1
      refine ⟨hlen, hreturn, fun t => ?_⟩
      have htake : (s.take n ++ t).take n = s.take n := by
        rw [List.take_append_of_le_length (by omega), List.take_take, Nat.min_self]
      unfold hexChar?
      rw [htake, hds]
      simp only [if_pos hcode]
      exact h
    · cases h
  · cases h

/-- An escape is decided by the characters that it takes. -/
theorem escape?_take {s : List Char} {c : Char} {n : Nat} (h : escape? s = some (c, n)) :
    ∃ e, s = e ++ s.drop n ∧ (∀ d ∈ e, d ≠ '\r') ∧
      ∀ t, escape? (e ++ t) = some (c, n) ∧ (e ++ t).drop n = t := by
  have hplain : ∀ {a b : Char} {r : List Char}, a ≠ '\r' → s = a :: r →
      (∀ t, escape? (a :: t) = some (b, 1)) → (b, 1) = (c, n) →
      ∃ e, s = e ++ s.drop n ∧ (∀ d ∈ e, d ≠ '\r') ∧
        ∀ t, escape? (e ++ t) = some (c, n) ∧ (e ++ t).drop n = t := by
    rintro a b r ha rfl hesc heq
    cases heq
    exact ⟨[a], rfl, by simpa using ha, fun t => ⟨hesc t, rfl⟩⟩
  have hhex : ∀ {a : Char} {r : List Char} {m : Nat}, a ≠ '\r' → s = a :: r →
      (∀ t, escape? (a :: t) = (hexChar? m t).map fun c => (c, m + 1)) →
      ∃ e, s = e ++ s.drop n ∧ (∀ d ∈ e, d ≠ '\r') ∧
        ∀ t, escape? (e ++ t) = some (c, n) ∧ (e ++ t).drop n = t := by
    rintro a r m ha rfl hesc
    rw [hesc r] at h
    obtain ⟨c', hc, heq⟩ := Option.map_eq_some_iff.mp h
    cases heq
    obtain ⟨hlen, hreturn, hread⟩ := hexChar?_take hc
    refine ⟨a :: r.take m, ?_, ?_, fun t => ⟨?_, ?_⟩⟩
    · rw [List.drop_succ_cons, List.cons_append, List.take_append_drop]
    · intro d hd
      rcases List.mem_cons.mp hd with rfl | hd
      · exact ha
      · exact hreturn d hd
    · rw [List.cons_append, hesc, hread t]
      rfl
    · rw [List.cons_append, List.drop_succ_cons, List.drop_left' hlen]
  unfold escape? at h
  split at h
  · exact hplain (by decide) rfl (fun _ => rfl) (Option.some.inj h)
  · exact hplain (by decide) rfl (fun _ => rfl) (Option.some.inj h)
  · exact hplain (by decide) rfl (fun _ => rfl) (Option.some.inj h)
  · exact hplain (by decide) rfl (fun _ => rfl) (Option.some.inj h)
  · exact hplain (by decide) rfl (fun _ => rfl) (Option.some.inj h)
  · exact hplain (by decide) rfl (fun _ => rfl) (Option.some.inj h)
  · exact hplain (by decide) rfl (fun _ => rfl) (Option.some.inj h)
  · exact hhex (by decide) rfl (fun _ => rfl)
  · exact hhex (by decide) rfl (fun _ => rfl)
  · cases h

/-- A reader that puts the character of an escape in front of what is read behind it. -/
theorem FramedAt.escape {f : List Char → Option (List Char × List Char)} {s cs r : List Char}
    {c : Char} {n : Nat} (h : FramedAt f (s.drop n) cs r) (hesc : escape? s = some (c, n))
    (hread : ∀ s', SameLine s s' → escape? s' = some (c, n) →
      f ('\\' :: s') = consRead c (f (s'.drop n))) : FramedAt f ('\\' :: s) (c :: cs) r := by
  obtain ⟨e, he, hreturn, htake⟩ := escape?_take hesc
  have hat : FramedAt f (('\\' :: e) ++ s.drop n) (c :: cs) r := by
    refine h.behind (List.forall_mem_cons.mpr ⟨by decide, hreturn⟩) fun s' r' hline hf => ?_
    obtain ⟨hesc', hdrop⟩ := htake s'
    have hsame : SameLine s (e ++ s') := by
      rw [he]
      exact .append (clean_of_forall hreturn) (Or.inr hline)
    rw [List.cons_append, hread _ hsame hesc', hdrop, hf]
    rfl
  rwa [List.cons_append, ← he] at hat

/-! ## Steps of the readers -/

/-- A character of a class, or a line feed, is none of those outside the class that a reader takes
before it looks at the class. -/
theorem ne_of_allowed {p : Char → Bool} {c d : Char} (h : p c = true ∨ c = '\n')
    (hd : p d = false) (hn : d ≠ '\n') : c ≠ d := by
  rintro rfl
  rw [hd] at h
  exact h.elim (by simp) hn

/-- A reader that puts a character of a class in front of what is read behind it. -/
theorem FramedAt.allowed {p : Char → Bool} {f : List Char → Option (List Char × List Char)}
    {c : Char} {s cs r : List Char} (h : FramedAt f s cs r) (hc : p c = true ∨ c = '\n')
    (hreturn : p '\r' = false) (hread : ∀ s', f (c :: s') = consRead c (f s')) :
    FramedAt f (c :: s) (c :: cs) r :=
  h.cons (ne_of_allowed hc hreturn (by decide)) fun s' _ => hread s'

theorem readBasic_close (r : List Char) : readBasic ('"' :: r) = some ([], r) := by
  rw [readBasic]

theorem readBasic_char {c : Char} (h : isBasicChar c = true) (r : List Char) :
    readBasic (c :: r) = consRead c (readBasic r) := by
  rw [readBasic, if_pos h]
  · exact ne_of_allowed (Or.inl h) (by decide) (by decide)
  · exact ne_of_allowed (Or.inl h) (by decide) (by decide)

theorem readLiteral_char {c : Char} (h : isLiteralChar c = true) (r : List Char) :
    readLiteral (c :: r) = consRead c (readLiteral r) := by
  rw [readLiteral, if_pos h]
  exact ne_of_allowed (Or.inl h) (by decide) (by decide)

theorem readLongBasic_close (r : List Char) :
    readLongBasic ('"' :: '"' :: '"' :: r) = some (closingQuotes '"' r) := by
  rw [readLongBasic]

theorem readLongBasic_quote {r : List Char} (h : ∀ t, r ≠ '"' :: '"' :: t) :
    readLongBasic ('"' :: r) = consRead '"' (readLongBasic r) := by
  rw [readLongBasic]
  exact h

theorem readLongBasic_return (r : List Char) :
    readLongBasic ('\r' :: '\n' :: r) = consRead '\n' (readLongBasic r) := by
  rw [readLongBasic]

theorem readLongBasic_char {c : Char} (h : isBasicChar c = true ∨ c = '\n') (r : List Char) :
    readLongBasic (c :: r) = consRead c (readLongBasic r) := by
  rw [readLongBasic, if_pos (by simpa [or_comm] using h)]
  · exact fun _ heq => absurd heq (ne_of_allowed h (by decide) (by decide))
  · exact ne_of_allowed h (by decide) (by decide)
  · exact ne_of_allowed h (by decide) (by decide)
  · exact fun _ heq => absurd heq (ne_of_allowed h (by decide) (by decide))

theorem readLongLiteral_quote {r : List Char} (h : ∀ t, r ≠ '\'' :: '\'' :: t) :
    readLongLiteral ('\'' :: r) = consRead '\'' (readLongLiteral r) := by
  rw [readLongLiteral]
  exact h

theorem readLongLiteral_char {c : Char} (h : isLiteralChar c = true ∨ c = '\n') (r : List Char) :
    readLongLiteral (c :: r) = consRead c (readLongLiteral r) := by
  rw [readLongLiteral, if_pos (by simpa [or_comm] using h)]
  · exact fun _ heq => absurd heq (ne_of_allowed h (by decide) (by decide))
  · exact ne_of_allowed h (by decide) (by decide)
  · exact fun _ heq => absurd heq (ne_of_allowed h (by decide) (by decide))

/-! ## Strings on one line -/

theorem framed_readBasic : Framed readBasic := by
  refine framed_iff.mpr fun s v r h => ?_
  induction s using readBasic.induct generalizing v with
  | case1 => simp [readBasic] at h
  | case2 t =>
    rw [readBasic_close] at h
    cases h
    exact .take (e := ['"']) (by simp) fun s' _ => readBasic_close s'
  | case3 t c n hesc ih =>
    rw [readBasic] at h
    simp only [hesc] at h
    obtain ⟨cs, hcs, rfl⟩ := consRead_eq_some.mp h
    refine (ih _ hcs).escape hesc fun s' _ hesc' => ?_
    rw [readBasic]
    simp only [hesc']
  | case4 t hesc =>
    rw [readBasic] at h
    simp only [hesc] at h
    cases h
  | case5 c t hquote hbackslash hc ih =>
    rw [readBasic_char hc] at h
    obtain ⟨cs, hcs, rfl⟩ := consRead_eq_some.mp h
    exact (ih _ hcs).allowed (Or.inl hc) (by decide) (readBasic_char hc)
  | case6 c t hquote hbackslash hc =>
    rw [readBasic] at h
    · rw [if_neg hc] at h
      cases h
    · exact hquote
    · exact hbackslash

theorem framed_readLiteral : Framed readLiteral := by
  refine framed_iff.mpr fun s v r h => ?_
  induction s using readLiteral.induct generalizing v with
  | case1 => cases h
  | case2 t =>
    cases h
    exact .take (e := ['\'']) (by simp) fun s' _ => rfl
  | case3 c t hquote hc ih =>
    rw [readLiteral_char hc] at h
    obtain ⟨cs, hcs, rfl⟩ := consRead_eq_some.mp h
    exact (ih _ hcs).allowed (Or.inl hc) (by decide) (readLiteral_char hc)
  | case4 c t hquote hc =>
    rw [readLiteral, if_neg hc] at h
    · cases h
    · exact hquote

/-! ## Strings on several lines -/

theorem SameLine.endsLine {s s' : List Char} (h : SameLine s s') : endsLine s' = endsLine s := by
  induction h with
  | nil => rfl
  | newline => rfl
  | change => rfl
  | keep => rfl
  | @char c r r' hr hn h ih =>
    by_cases hs : c = ' '
    · subst hs
      rw [Toml.endsLine, Toml.endsLine, ih]
    · by_cases ht : c = '\t'
      · subst ht
        rw [Toml.endsLine, Toml.endsLine, ih]
      · rw [Toml.endsLine, Toml.endsLine]
        all_goals simp_all

/-- Blank lines are taken with all their endings. -/
theorem framed_skipBlankLines : Framed fun s => some ((), skipBlankLines s) := by
  refine framed_iff.mpr fun s v r h => ?_
  obtain ⟨rfl, rfl⟩ := Prod.mk.inj (Option.some.inj h)
  clear h
  induction s using skipBlankLines.induct with
  | case1 t ih =>
    rw [skipBlankLines]
    exact ih.behind (e := [' ']) (by simp) fun s' r' _ h => h
  | case2 t ih =>
    rw [skipBlankLines]
    exact ih.behind (e := ['\t']) (by simp) fun s' r' _ h => h
  | case3 t ih =>
    rw [skipBlankLines]
    exact ih.behind (e := ['\n']) (by simp) fun s' r' _ h => h
  | case4 t ih =>
    rw [skipBlankLines]
    exact ih.lineEnd (fun s' r' h => h) fun s' r' h => h
  | case5 s h₁ h₂ h₃ h₄ =>
    have hs : skipBlankLines s = s := by
      rw [skipBlankLines]
      · exact h₁
      · exact h₂
      · exact h₃
      · exact h₄
    rw [hs]
    refine .stop fun s' hline => ?_
    cases hline with
    | nil => rfl
    | newline t _ => exact absurd rfl (h₃ t)
    | change t _ => exact absurd rfl (h₄ t)
    | keep t _ => exact absurd rfl (h₄ t)
    | @char c r r' hr hn h =>
      rw [skipBlankLines]
      · rintro t heq
        cases heq
        exact h₁ _ rfl
      · rintro t heq
        cases heq
        exact h₂ _ rfl
      · rintro t heq
        cases heq
        exact hn rfl
      · rintro t heq
        cases heq
        exact hr rfl

theorem closingQuotes_none {q : Char} {s : List Char} (h : ∀ t, s ≠ q :: t) :
    closingQuotes q s = ([], s) := by
  match s with
  | [] => rfl
  | [a] => rw [closingQuotes, if_neg fun ha => h [] (by rw [ha])]
  | a :: b :: t => rw [closingQuotes, if_neg fun ha => h (b :: t) (by rw [ha])]

theorem closingQuotes_one {q : Char} {s : List Char} (h : ∀ t, s ≠ q :: t) :
    closingQuotes q (q :: s) = ([q], s) := by
  cases s with
  | nil => rw [closingQuotes, if_pos rfl]
  | cons b t => rw [closingQuotes, if_pos rfl, if_neg fun hb => h t (by rw [hb])]

theorem closingQuotes_two (q : Char) (s : List Char) :
    closingQuotes q (q :: q :: s) = ([q, q], s) := by
  rw [closingQuotes, if_pos rfl, if_pos rfl]

theorem framed_closingQuotes {q : Char} (hr : q ≠ '\r') (hn : q ≠ '\n') :
    Framed fun s => some (closingQuotes q s) := by
  have hline : ∀ {s s' : List Char}, (∀ t, s ≠ q :: t) → SameLine s s' → ∀ t, s' ≠ q :: t := by
    rintro s s' hs h t rfl
    obtain ⟨t₀, rfl, -⟩ := h.of_cons_right hr hn
    exact hs t₀ rfl
  refine framed_iff.mpr fun s v r h => ?_
  by_cases h₁ : ∃ t, s = q :: t
  · obtain ⟨t, rfl⟩ := h₁
    by_cases h₂ : ∃ t₂, t = q :: t₂
    · obtain ⟨t₂, rfl⟩ := h₂
      rw [closingQuotes_two] at h
      cases h
      exact .take (e := [q, q]) (by simpa using hr) fun s' _ =>
        congrArg some (closingQuotes_two q s')
    · have ht : ∀ t₂, t ≠ q :: t₂ := fun t₂ heq => h₂ ⟨t₂, heq⟩
      rw [closingQuotes_one ht] at h
      cases h
      exact .take (e := [q]) (by simpa using hr) fun s' hsame =>
        congrArg some (closingQuotes_one (hline ht hsame))
  · have hs : ∀ t, s ≠ q :: t := fun t heq => h₁ ⟨t, heq⟩
    rw [closingQuotes_none hs] at h
    cases h
    exact .stop fun s' hsame => congrArg some (closingQuotes_none (hline hs hsame))

/-- Where two quotes do not stand in front, they do not stand in front of the same line. -/
theorem SameLine.not_two_quotes {q : Char} (hr : q ≠ '\r') (hn : q ≠ '\n') {s s' : List Char}
    (h : SameLine s s') (hs : ∀ t, s ≠ q :: q :: t) (t : List Char) : s' ≠ q :: q :: t := by
  rintro rfl
  obtain ⟨t₁, rfl, h₁⟩ := h.of_cons_right hr hn
  obtain ⟨t₂, rfl, -⟩ := h₁.of_cons_right hr hn
  exact hs t₂ rfl

theorem framed_readLongBasic : Framed readLongBasic := by
  refine framed_iff.mpr fun s v r h => ?_
  induction s using readLongBasic.induct generalizing v with
  | case1 => simp [readLongBasic] at h
  | case2 t =>
    rw [readLongBasic_close] at h
    refine ((framed_closingQuotes (by decide) (by decide)).at h).behind (e := ['"', '"', '"'])
      (by simp) fun s' r' _ hf => ?_
    exact (readLongBasic_close s').trans hf
  | case3 t hquotes ih =>
    rw [readLongBasic_quote hquotes] at h
    obtain ⟨cs, hcs, rfl⟩ := consRead_eq_some.mp h
    exact (ih _ hcs).cons (by decide) fun s' hline =>
      readLongBasic_quote (hline.not_two_quotes (by decide) (by decide) hquotes)
  | case4 t hends ih =>
    rw [readLongBasic, if_pos hends] at h
    have hskip : FramedAt (fun s => readLongBasic (skipBlankLines s)) t v r := by
      refine (framed_skipBlankLines.at rfl).bind (ih _ h) fun s' s₁' r' _ h₁ h₂ => ?_
      obtain ⟨-, rfl⟩ := Prod.mk.inj (Option.some.inj h₁)
      exact h₂
    refine hskip.behind (e := ['\\']) (by simp) fun s' r' hline hf => ?_
    rw [List.singleton_append, readLongBasic, if_pos (hline.endsLine.trans hends)]
    exact hf
  | case5 t hends c n hesc ih =>
    rw [readLongBasic, if_neg hends] at h
    simp only [hesc] at h
    obtain ⟨cs, hcs, rfl⟩ := consRead_eq_some.mp h
    refine (ih _ hcs).escape hesc fun s' hline hesc' => ?_
    rw [readLongBasic, hline.endsLine, if_neg hends]
    simp only [hesc']
  | case6 t hends hesc =>
    rw [readLongBasic, if_neg hends] at h
    simp only [hesc] at h
    cases h
  | case7 t ih =>
    rw [readLongBasic_return] at h
    obtain ⟨cs, hcs, rfl⟩ := consRead_eq_some.mp h
    refine (ih _ hcs).lineEnd (fun s' r' hf => ?_) fun s' r' hf => ?_
    · rw [readLongBasic_char (Or.inr rfl), hf]
      rfl
    · rw [readLongBasic_return, hf]
      rfl
  | case8 c t _ _ _ _ hc ih =>
    have hchar : isBasicChar c = true ∨ c = '\n' := by simpa [or_comm] using hc
    rw [readLongBasic_char hchar] at h
    obtain ⟨cs, hcs, rfl⟩ := consRead_eq_some.mp h
    exact (ih _ hcs).allowed hchar (by decide) (readLongBasic_char hchar)
  | case9 c t h₁ h₂ h₃ h₄ hc =>
    rw [readLongBasic, if_neg hc] at h
    · cases h
    · exact h₁
    · exact h₂
    · exact h₃
    · exact h₄

theorem framed_readLongLiteral : Framed readLongLiteral := by
  refine framed_iff.mpr fun s v r h => ?_
  induction s using readLongLiteral.induct generalizing v with
  | case1 => cases h
  | case2 t =>
    exact ((framed_closingQuotes (by decide) (by decide)).at h).behind (e := ['\'', '\'', '\''])
      (by simp) fun s' r' _ hf => hf
  | case3 t hquotes ih =>
    rw [readLongLiteral_quote hquotes] at h
    obtain ⟨cs, hcs, rfl⟩ := consRead_eq_some.mp h
    exact (ih _ hcs).cons (by decide) fun s' hline =>
      readLongLiteral_quote (hline.not_two_quotes (by decide) (by decide) hquotes)
  | case4 t ih =>
    obtain ⟨cs, hcs, rfl⟩ := consRead_eq_some.mp h
    refine (ih _ hcs).lineEnd (fun s' r' hf => ?_) fun s' r' hf => ?_
    · rw [readLongLiteral_char (Or.inr rfl), hf]
      rfl
    · rw [readLongLiteral, hf]
      rfl
  | case5 c t _ _ _ hc ih =>
    have hchar : isLiteralChar c = true ∨ c = '\n' := by simpa [or_comm] using hc
    rw [readLongLiteral_char hchar] at h
    obtain ⟨cs, hcs, rfl⟩ := consRead_eq_some.mp h
    exact (ih _ hcs).allowed hchar (by decide) (readLongLiteral_char hchar)
  | case6 c t h₁ h₂ h₃ hc =>
    rw [readLongLiteral, if_neg hc] at h
    · cases h
    · exact h₁
    · exact h₂
    · exact h₃

/-- A reader behind a line ending that may stand in front. -/
theorem Framed.dropLineEnd {α : Type} {f : List Char → Option (α × List Char)} (hf : Framed f) :
    Framed fun s => f (dropLineEnd s) := by
  refine framed_iff.mpr fun s v r h => ?_
  by_cases h₁ : ∃ t, s = '\n' :: t
  · obtain ⟨t, rfl⟩ := h₁
    exact (hf.at h).behind (e := ['\n']) (by simp) fun s' r' _ hf' => hf'
  · by_cases h₂ : ∃ t, s = '\r' :: '\n' :: t
    · obtain ⟨t, rfl⟩ := h₂
      exact (hf.at h).lineEnd (fun s' r' hf' => hf') fun s' r' hf' => hf'
    · have hs : ∀ {s' : List Char}, SameLine s s' → Toml.dropLineEnd s' = s' := by
        intro s' hsame
        cases hsame with
        | nil => rfl
        | newline t _ => exact absurd ⟨t, rfl⟩ h₁
        | change t _ => exact absurd ⟨t, rfl⟩ h₂
        | keep t _ => exact absurd ⟨t, rfl⟩ h₂
        | @char c r r' hr hn _ =>
          unfold Toml.dropLineEnd
          split
          · next heq =>
            cases heq
            exact absurd rfl hn
          · next heq =>
            cases heq
            exact absurd rfl hr
          · rfl
      have hself : Toml.dropLineEnd s = s := by
        unfold Toml.dropLineEnd
        split
        · next t => exact absurd ⟨t, rfl⟩ h₁
        · next t => exact absurd ⟨t, rfl⟩ h₂
        · rfl
      rw [hself] at h
      refine (hf.at h).behind (e := []) (by simp) fun s' r' hline hf' => ?_
      rw [List.nil_append, hs hline, hf']

/-- A reader behind three quotes, or another behind one that has not two more behind it. -/
theorem framedAt_quotes {q : Char} (hr : q ≠ '\r') (hn : q ≠ '\n')
    {long short : List Char → Option (List Char × List Char)} (hlong : Framed long)
    (hshort : Framed short) {read : List Char → Option (List Char × List Char)}
    (h₃ : ∀ t, read (q :: q :: q :: t) = long t)
    (h₁ : ∀ t, (∀ t', t ≠ q :: q :: t') → read (q :: t) = short t) {s r v : List Char}
    (h : read (q :: s) = some (v, r)) : FramedAt read (q :: s) v r := by
  by_cases hs : ∃ t, s = q :: q :: t
  · obtain ⟨t, rfl⟩ := hs
    rw [h₃] at h
    exact (hlong.at h).behind (e := [q, q, q]) (by simpa using hr) fun s' r' _ hf =>
      (h₃ s').trans hf
  · have hs : ∀ t, s ≠ q :: q :: t := fun t heq => hs ⟨t, heq⟩
    rw [h₁ s hs] at h
    exact (hshort.at h).behind (e := [q]) (by simpa using hr) fun s' r' hline hf =>
      (h₁ s' (hline.not_two_quotes hr hn hs)).trans hf

theorem framed_readString : Framed readString := by
  refine framed_iff.mpr fun s v r h => ?_
  match s, h with
  | [], h => cases h
  | c :: t, h =>
    by_cases hq : c = '"'
    · subst hq
      refine framedAt_quotes (by decide) (by decide) framed_readLongBasic.dropLineEnd
        framed_readBasic (fun _ => rfl) (fun t ht => ?_) h
      rw [readString]
      exact ht
    · by_cases ha : c = '\''
      · subst ha
        refine framedAt_quotes (by decide) (by decide) framed_readLongLiteral.dropLineEnd
          framed_readLiteral (fun _ => rfl) (fun t ht => ?_) h
        rw [readString]
        exact ht
      · unfold readString at h
        split at h
        · next heq => exact absurd (List.cons.inj heq).1 hq
        · next heq => exact absurd (List.cons.inj heq).1 hq
        · next heq => exact absurd (List.cons.inj heq).1 ha
        · next heq => exact absurd (List.cons.inj heq).1 ha
        · cases h

/-! ## Keys -/

theorem framed_readKeyPart : Framed readKeyPart := by
  refine framed_iff.mpr fun s v r h => ?_
  unfold readKeyPart at h
  split at h
  · exact ((framed_readBasic.map String.ofList).at h).behind (e := ['"']) (by simp)
      fun s' r' _ hf => hf
  · exact ((framed_readLiteral.map String.ofList).at h).behind (e := ['\'']) (by simp)
      fun s' r' _ hf => hf
  · dsimp only at h
    split at h
    · cases h
    · next hne =>
      cases h
      have hbare : Framed fun s => some (s.takeWhile isBareChar, s.dropWhile isBareChar) :=
        framed_takeWhile (by decide) (by decide)
      refine (hbare.at rfl).behind (e := []) (by simp) fun s' r' _ hf => ?_
      obtain ⟨htake, hdrop⟩ := Prod.mk.inj (Option.some.inj hf)
      have hfirst : ∀ c t, s' = c :: t → isBareChar c = true := by
        rintro c t rfl
        rw [List.takeWhile_cons] at htake
        split at htake
        · assumption
        · rw [← htake] at hne
          exact absurd rfl hne
      rw [List.nil_append]
      unfold readKeyPart
      split
      · next t => cases hfirst _ _ rfl
      · next t => cases hfirst _ _ rfl
      · dsimp only
        rw [htake, hdrop, if_neg hne]

/-- The other parts of a key, behind its first. -/
def readKeyRest (n : Nat) (part : String) : List Char → Option (List String × List Char)
  | '.' :: r => (readKeyParts n r).bind fun x => some (part :: x.1, x.2)
  | s => some ([part], s)

theorem framed_readKeyParts (n : Nat) : Framed (readKeyParts n) := by
  induction n with
  | zero => exact framed_none
  | succ n ih =>
    have hrest : ∀ part : String, Framed (readKeyRest n part) := by
      intro part
      have hmore : Framed fun t => (readKeyParts n t).bind fun x => some (part :: x.1, x.2) :=
        ih.bind fun parts => framed_pure (part :: parts)
      refine framed_of_prefixes [['.']] (by simp) hmore (framed_pure [part]) fun s hs => ?_
      unfold readKeyRest
      split
      · next t => exact absurd rfl (hs ['.'] (by simp) t)
      · rfl
    have hpart := framed_readKeyPart.bind fun part =>
      (hrest part).dropWhile (p := fun c => c = ' ' || c = '\t') (by decide) (by decide)
    exact hpart.dropWhile (by decide) (by decide)

theorem framed_readKey : Framed readKey := by
  have hlast : ∀ parts : List String, Framed fun s =>
      (parts.getLast?).bind fun last => some ((parts.dropLast, last), s) := by
    intro parts
    cases parts.getLast? with
    | none => exact framed_none
    | some last => exact framed_pure (parts.dropLast, last)
  exact (framed_readKeyParts (nestingLimit - 1)).bind hlast

end ValidatorKeys.Toml
