import ValidatorKeys.Proofs.Toml.Framing.Strings

/-!
# Written strings are read back

    readString (written s ++ r) = some (s, r)      readKeyPart (writtenKey k ++ r) = some (k, r)

for every `r` that does not start with a quote.  Quotes at the end of a string of several lines stand
directly in front of the closing ones, so up to five of them in a row are read.
-/

namespace ValidatorKeys.Toml

/-! ## Escapes -/

/-- A text that stands for a character behind a backslash. -/
structure IsEscape (c : Char) (e : List Char) : Prop where
  reads : ∀ t, escape? (e ++ t) = some (c, e.length)
  endsLine : ∀ t, endsLine (e ++ t) = false

theorem hexChar?_upperHexDigit : ∀ n < 128,
    hexChar? 4 ['0', '0', upperHexDigit (n / 16), upperHexDigit (n % 16)] = some (Char.ofNat n) := by
  decide +kernel

theorem toNat_lt_of_isControl {c : Char} (h : isControl c = true) : c.toNat < 128 := by
  simp only [isControl, Bool.or_eq_true, Bool.and_eq_true, decide_eq_true_eq] at h
  omega

/-- A control character is escaped by its number. -/
theorem isEscape_of_isControl {c : Char} (h : isControl c = true) :
    IsEscape c ['u', '0', '0', upperHexDigit (c.toNat / 16), upperHexDigit (c.toNat % 16)] where
  reads t := by
    have hhex := hexChar?_upperHexDigit c.toNat (toNat_lt_of_isControl h)
    rw [Char.ofNat_toNat] at hhex
    have htake : ∀ x y, hexChar? 4 ('0' :: '0' :: x :: y :: t) = hexChar? 4 ['0', '0', x, y] :=
      fun _ _ => rfl
    change (hexChar? 4 ('0' :: '0' :: _ :: _ :: t)).map (fun c => (c, 5)) = _
    rw [htake, hhex]
    rfl
  endsLine _ := rfl

theorem isEscape_singleton {c a : Char} (h : ∀ t, escape? (a :: t) = some (c, 1))
    (hline : ∀ t, endsLine (a :: t) = false) : IsEscape c [a] where
  reads := h
  endsLine := hline

theorem space_le_iff {c : Char} : ' ' ≤ c ↔ 32 ≤ c.toNat := Iff.rfl

theorem range_of_not_isControl {c : Char} (h : isControl c = false) :
    (c = '\t' ∨ c = '\n' ∨ 32 ≤ c.toNat) ∧ c.toNat ≠ 0x7F := by
  rw [isControl, Bool.or_eq_false_iff, decide_eq_false_iff_not] at h
  refine ⟨?_, h.2⟩
  by_cases htab : c = '\t'
  · exact Or.inl htab
  · by_cases hnewline : c = '\n'
    · exact Or.inr (Or.inl hnewline)
    · have := h.1
      simp only [htab, hnewline, ne_eq, not_false_eq_true, decide_true, Bool.and_true,
        decide_eq_false_iff_not, Nat.not_lt] at this
      exact Or.inr (Or.inr this)

theorem isBasicChar_of_not_isControl {c : Char} (h : isControl c = false) (hslash : c ≠ '\\') :
    isBasicChar c = true ∨ c = '"' ∨ c = '\n' := by
  obtain ⟨hlow, hdelete⟩ := range_of_not_isControl h
  by_cases hquote : c = '"'
  · exact Or.inr (Or.inl hquote)
  · rcases hlow with rfl | hnewline | hspace
    · exact Or.inl rfl
    · exact Or.inr (Or.inr hnewline)
    · left
      simp [isBasicChar, space_le_iff, hquote, hslash, hdelete, hspace]

theorem isLiteralChar_of_not_isControl {c : Char} (h : isControl c = false) (hquote : c ≠ '\'') :
    isLiteralChar c = true ∨ c = '\n' := by
  obtain ⟨hlow, hdelete⟩ := range_of_not_isControl h
  rcases hlow with rfl | hnewline | hspace
  · exact Or.inl rfl
  · exact Or.inr hnewline
  · left
    simp [isLiteralChar, space_le_iff, hquote, hdelete, hspace]

/-- A character is written as it is, or behind a backslash. -/
theorem escaped_cases (c : Char) :
    (escaped c = [c] ∧ (isBasicChar c = true ∨ c = '"' ∨ c = '\n')) ∨
      ∃ e, escaped c = '\\' :: e ∧ IsEscape c e := by
  unfold escaped
  split
  · next h =>
    subst h
    exact Or.inr ⟨['t'], rfl, isEscape_singleton (fun _ => rfl) fun _ => rfl⟩
  · split
    · next h =>
      subst h
      exact Or.inr ⟨['r'], rfl, isEscape_singleton (fun _ => rfl) fun _ => rfl⟩
    · split
      · next h =>
        subst h
        exact Or.inr ⟨['\\'], rfl, isEscape_singleton (fun _ => rfl) fun _ => rfl⟩
      · split
        · next h =>
          obtain rfl : c = Char.ofNat 8 := by rw [← h, Char.ofNat_toNat]
          exact Or.inr ⟨['b'], rfl, isEscape_singleton (fun _ => rfl) fun _ => rfl⟩
        · split
          · next h =>
            obtain rfl : c = Char.ofNat 12 := by rw [← h, Char.ofNat_toNat]
            exact Or.inr ⟨['f'], rfl, isEscape_singleton (fun _ => rfl) fun _ => rfl⟩
          · split
            · next h => exact Or.inr ⟨_, rfl, isEscape_of_isControl h⟩
            · next hslash _ _ hcontrol =>
              exact Or.inl ⟨rfl, isBasicChar_of_not_isControl (by simpa using hcontrol) hslash⟩

/-! ## Strings on one line -/

theorem readBasic_escape {c : Char} {e : List Char} (h : IsEscape c e) (r : List Char) :
    readBasic ('\\' :: (e ++ r)) = consRead c (readBasic r) := by
  rw [readBasic, h.reads]
  simp

/-- **Every string is read back** from its basic form on one line. -/
theorem readBasic_basicBody (s r : List Char) :
    readBasic (basicBody s ++ '"' :: r) = some (s, r) := by
  induction s with
  | nil => exact readBasic_close r
  | cons c s ih =>
    have hbody : basicBody (c :: s) = (if c = '"' then ['\\', '"'] else
        if c = '\n' then ['\\', 'n'] else escaped c) ++ basicBody s := List.flatMap_cons
    have hescape : ∀ e, IsEscape c e →
        readBasic ('\\' :: e ++ basicBody s ++ '"' :: r) = some (c :: s, r) := by
      intro e he
      rw [List.append_assoc, List.cons_append, readBasic_escape he, ih]
      rfl
    rw [hbody]
    split
    · next h =>
      subst h
      exact hescape ['"'] (isEscape_singleton (fun _ => rfl) fun _ => rfl)
    · next hquote =>
      split
      · next h =>
        subst h
        exact hescape ['n'] (isEscape_singleton (fun _ => rfl) fun _ => rfl)
      · next hnewline =>
        rcases escaped_cases c with ⟨hc, hchar⟩ | ⟨e, hc, he⟩
        · have hbasic : isBasicChar c = true := hchar.resolve_right (by simp [hquote, hnewline])
          rw [hc, List.append_assoc, List.singleton_append, readBasic_char hbasic, ih]
          rfl
        · rw [hc]
          exact hescape e he

/-- A string without apostrophes is read back from its literal form on one line. -/
theorem readLiteral_append {s : List Char} (h : ∀ c ∈ s, isLiteralChar c = true) (r : List Char) :
    readLiteral (s ++ '\'' :: r) = some (s, r) := by
  induction s with
  | nil => rfl
  | cons c s ih =>
    have hc := h c List.mem_cons_self
    rw [List.cons_append, readLiteral_char hc, ih fun d hd => h d (List.mem_cons_of_mem _ hd)]
    rfl

/-! ## Strings on several lines -/

theorem readLongBasic_escape {c : Char} {e : List Char} (h : IsEscape c e) (r : List Char) :
    readLongBasic ('\\' :: (e ++ r)) = consRead c (readLongBasic r) := by
  rw [readLongBasic, h.endsLine, if_neg (by simp), h.reads]
  simp

/-- No quote stands in front of the body of a string that does not start with one. -/
theorem longBasicBody_head {run : Nat} {c : Char} {s t : List Char} (hc : c ≠ '"') (r : List Char) :
    longBasicBody run (c :: s) ++ r ≠ '"' :: t := by
  by_cases hnewline : c = '\n'
  · subst hnewline
    simp [longBasicBody]
  · rw [longBasicBody]
    · rcases escaped_cases c with ⟨h, -⟩ | ⟨e, h, -⟩
      · simp [h, hc]
      · simp [h]
    · exact hc
    · exact hnewline

/-- Two quotes in front of the rest of a string, behind quotes that were written, are closing ones. -/
theorem longBasicBody_quotes {run : Nat} {s r t : List Char} (hrun : run < 2)
    (h : longBasicBody (run + 1) s ++ '"' :: '"' :: '"' :: r = '"' :: '"' :: t) :
    s = [] ∨ (s = ['"'] ∧ run = 0) := by
  cases s with
  | nil => exact Or.inl rfl
  | cons c s =>
    by_cases hc : c = '"'
    · subst hc
      obtain rfl | rfl : run = 0 ∨ run = 1 := by omega
      · have hrest : longBasicBody 2 s ++ '"' :: '"' :: '"' :: r = '"' :: t :=
          List.tail_eq_of_cons_eq h
        cases s with
        | nil => exact Or.inr ⟨rfl, rfl⟩
        | cons d s =>
          by_cases hd : d = '"'
          · subst hd
            simp [longBasicBody] at hrest
          · exact absurd hrest (longBasicBody_head hd _)
      · simp [longBasicBody] at h
    · exact absurd h (longBasicBody_head hc _)

/-- **Every string is read back** from its basic form on several lines. -/
theorem readLongBasic_longBasicBody {run : Nat} (hrun : run ≤ 2) (s : List Char) {r : List Char}
    (hr : ∀ t, r ≠ '"' :: t) :
    readLongBasic (longBasicBody run s ++ '"' :: '"' :: '"' :: r) = some (s, r) := by
  induction s generalizing run with
  | nil => rw [longBasicBody, List.nil_append, readLongBasic_close, closingQuotes_none hr]
  | cons c s ih =>
    by_cases hquote : c = '"'
    · subst hquote
      by_cases hlast : run = 2
      · subst hlast
        have he : IsEscape '"' ['"'] := isEscape_singleton (fun _ => rfl) fun _ => rfl
        change readLongBasic ('\\' :: (['"'] ++ (longBasicBody 0 s ++ '"' :: '"' :: '"' :: r))) = _
        rw [readLongBasic_escape he, ih (by omega)]
        rfl
      · rw [longBasicBody, if_neg hlast, List.cons_append]
        by_cases hclose : ∃ t, longBasicBody (run + 1) s ++ '"' :: '"' :: '"' :: r = '"' :: '"' :: t
        · -- this quote is the first of the closing ones for the reader
          obtain ⟨t, ht⟩ := hclose
          rcases longBasicBody_quotes (by omega) ht with rfl | ⟨rfl, rfl⟩
          · rw [longBasicBody, List.nil_append, readLongBasic_close, closingQuotes_one hr]
          · change readLongBasic ('"' :: '"' :: '"' :: '"' :: '"' :: r) = _
            rw [readLongBasic_close, closingQuotes_two]
        · rw [readLongBasic_quote fun t ht => hclose ⟨t, ht⟩, ih (by omega)]
          rfl
    · by_cases hnewline : c = '\n'
      · subst hnewline
        rw [longBasicBody, List.cons_append, readLongBasic_char (Or.inr rfl), ih (by omega)]
        rfl
      · have hbody : longBasicBody run (c :: s) = escaped c ++ longBasicBody 0 s := by
          rw [longBasicBody]
          · exact hquote
          · exact hnewline
        rw [hbody]
        rcases escaped_cases c with ⟨hc, hchar⟩ | ⟨e, hc, he⟩
        · have hbasic : isBasicChar c = true := hchar.resolve_right (by simp [hquote, hnewline])
          rw [hc, List.append_assoc, List.singleton_append, readLongBasic_char (Or.inl hbasic),
            ih (by omega)]
          rfl
        · rw [hc, List.append_assoc, List.cons_append, readLongBasic_escape he, ih (by omega)]
          rfl

/-- **A string without three apostrophes in a row is read back** from its literal form on several
lines. -/
theorem readLongLiteral_append {s r : List Char} (hrun : hasRun '\'' 3 s = false)
    (hs : ∀ c ∈ s, c = '\'' ∨ isLiteralChar c = true ∨ c = '\n') (hr : ∀ t, r ≠ '\'' :: t) :
    readLongLiteral (s ++ '\'' :: '\'' :: '\'' :: r) = some (s, r) := by
  induction s with
  | nil =>
    change some (closingQuotes '\'' r) = _
    rw [closingQuotes_none hr]
  | cons c s ih =>
    rw [hasRun, Bool.or_eq_false_iff] at hrun
    have hrest := ih hrun.2 fun d hd => hs d (List.mem_cons_of_mem _ hd)
    rcases hs c List.mem_cons_self with rfl | hc
    · by_cases hclose : ∃ t, s ++ '\'' :: '\'' :: '\'' :: r = '\'' :: '\'' :: t
      · -- this apostrophe is the first of the closing ones for the reader
        obtain ⟨t, ht⟩ := hclose
        match s, hrun.1, ht with
        | [], _, _ =>
          change some (closingQuotes '\'' ('\'' :: r)) = _
          rw [closingQuotes_one hr]
        | [d], _, ht =>
          obtain rfl : d = '\'' := List.head_eq_of_cons_eq ht
          change some (closingQuotes '\'' ('\'' :: '\'' :: r)) = _
          rw [closingQuotes_two]
        | d :: e :: s, hfront, ht =>
          obtain rfl : d = '\'' := List.head_eq_of_cons_eq ht
          obtain rfl : e = '\'' := List.head_eq_of_cons_eq (List.tail_eq_of_cons_eq ht)
          simp [List.isPrefixOf] at hfront
      · rw [List.cons_append, readLongLiteral_quote fun t ht => hclose ⟨t, ht⟩, hrest]
        rfl
    · rw [List.cons_append, readLongLiteral_char hc, hrest]
      rfl

/-! ## Strings of any form -/

theorem readString_basic {r : List Char} (h : ∀ t, r ≠ '"' :: '"' :: t) :
    readString ('"' :: r) = readBasic r := by
  rw [readString]
  exact h

theorem readString_literal {r : List Char} (h : ∀ t, r ≠ '\'' :: '\'' :: t) :
    readString ('\'' :: r) = readLiteral r := by
  rw [readString]
  exact h

/-- A string on one line does not start with three quotes. -/
theorem basicBody_quotes {s r t : List Char} (hr : ∀ t, r ≠ '"' :: t) :
    basicBody s ++ '"' :: r ≠ '"' :: '"' :: t := by
  cases s with
  | nil =>
    intro h
    exact hr t (List.tail_eq_of_cons_eq h)
  | cons c s =>
    have hbody : basicBody (c :: s) = (if c = '"' then ['\\', '"'] else
        if c = '\n' then ['\\', 'n'] else escaped c) ++ basicBody s := List.flatMap_cons
    rw [hbody]
    split
    · simp
    · next hc =>
      split
      · simp
      · rcases escaped_cases c with ⟨h, -⟩ | ⟨e, h, -⟩
        · simp [h, hc]
        · simp [h]

/-- A line feed in front of a body is dropped, if one was written there; a body without line feeds
starts with none. -/
theorem dropLineEnd_append {body : List Char} {newline : Bool}
    (h : newline = false → body.head? ≠ some '\n' ∧ body.head? ≠ some '\r') :
    dropLineEnd ((if newline then ['\n'] else []) ++ body) = body := by
  cases newline with
  | true => rfl
  | false =>
    obtain ⟨hnewline, hreturn⟩ := h rfl
    change dropLineEnd body = body
    unfold dropLineEnd
    split
    · simp at hnewline
    · simp at hreturn
    · rfl

theorem longBasicBody_lineEnd {s : List Char} (h : '\n' ∉ s) (r : List Char) :
    (longBasicBody 0 s ++ '"' :: r).head? ≠ some '\n' ∧
      (longBasicBody 0 s ++ '"' :: r).head? ≠ some '\r' := by
  cases s with
  | nil => simp [longBasicBody]
  | cons c s =>
    have hnewline : c ≠ '\n' := fun hc => h (hc ▸ List.mem_cons_self)
    by_cases hquote : c = '"'
    · subst hquote
      simp [longBasicBody]
    · rw [longBasicBody]
      · rcases escaped_cases c with ⟨hc, hchar⟩ | ⟨e, hc, -⟩
        · have hbasic : isBasicChar c = true := hchar.resolve_right (by simp [hquote, hnewline])
          have hreturn : c ≠ '\r' := by
            rintro rfl
            revert hbasic
            decide
          simp [hc, hnewline, hreturn]
        · simp [hc]
      · exact hquote
      · exact hnewline

theorem literal_lineEnd {s : List Char} (h : '\n' ∉ s)
    (hs : ∀ c ∈ s, c = '\'' ∨ isLiteralChar c = true ∨ c = '\n') (r : List Char) :
    (s ++ '\'' :: r).head? ≠ some '\n' ∧ (s ++ '\'' :: r).head? ≠ some '\r' := by
  cases s with
  | nil => simp
  | cons c s =>
    have hnewline : c ≠ '\n' := fun hc => h (hc ▸ List.mem_cons_self)
    have hreturn : c ≠ '\r' := by
      rintro rfl
      have := hs _ List.mem_cons_self
      revert this
      decide
    simp [hnewline, hreturn]

/-- What a written string has in front: it is one of the four forms. -/
inductive WrittenForm (s : List Char) : List Char → Prop
  | basic : WrittenForm s (onOneLine '"' (basicBody s))
  | literal : s ≠ [] → (∀ c ∈ s, isLiteralChar c = true) → WrittenForm s (onOneLine '\'' s)
  | longBasic : WrittenForm s (onLines '"' (s.contains '\n') (longBasicBody 0 s))
  | longLiteral : hasRun '\'' 3 s = false →
      (∀ c ∈ s, c = '\'' ∨ isLiteralChar c = true ∨ c = '\n') →
      WrittenForm s (onLines '\'' (s.contains '\n') s)

theorem writtenForm_written (s : List Char) : WrittenForm s (written s) := by
  have hcontrol : (!s.any isControl) = true → ∀ c ∈ s, isControl c = false := by
    intro h c hc
    rw [Bool.not_eq_true', List.any_eq_false] at h
    simpa using h c hc
  unfold written
  simp only
  split
  · exact .basic
  · next h₁ =>
    split
    · next h₂ =>
      simp only [Bool.and_eq_true] at h₁ h₂
      obtain ⟨⟨hc, hn⟩, hq⟩ := h₂
      refine .literal ?_ fun c hmem => ?_
      · rintro rfl
        simp at h₁
      · have hquote : c ≠ '\'' := by
          rintro rfl
          simp [hmem] at hq
        refine (isLiteralChar_of_not_isControl (hcontrol hc c hmem) hquote).resolve_right ?_
        rintro rfl
        simp [hmem] at hn
    · split
      · exact .longBasic
      · split
        · next h₄ =>
          simp only [Bool.and_eq_true] at h₄
          refine .longLiteral (by simpa using h₄.2) fun c hmem => ?_
          by_cases hquote : c = '\''
          · exact Or.inl hquote
          · exact Or.inr (isLiteralChar_of_not_isControl (hcontrol h₄.1 c hmem) hquote)
        · split
          · exact .longBasic
          · exact .basic

/-- **A written string is read back**, whatever follows it but a quote. -/
theorem readString_written (s : List Char) {r : List Char}
    (hr : ∀ q ∈ ['"', '\''], ∀ t, r ≠ q :: t) : readString (written s ++ r) = some (s, r) := by
  have hr₁ : ∀ t, r ≠ '"' :: t := hr '"' (by simp)
  have hr₂ : ∀ t, r ≠ '\'' :: t := hr '\'' (by simp)
  have hnewline : s.contains '\n' = false → '\n' ∉ s := by simp
  have hform := writtenForm_written s
  generalize written s = w at hform ⊢
  cases hform with
  | basic =>
    have h : onOneLine '"' (basicBody s) ++ r = '"' :: (basicBody s ++ '"' :: r) := by
      simp [onOneLine]
    rw [h, readString_basic fun t => basicBody_quotes hr₁, readBasic_basicBody]
  | literal hne hs =>
    have h : onOneLine '\'' s ++ r = '\'' :: (s ++ '\'' :: r) := by simp [onOneLine]
    obtain ⟨c, s, rfl⟩ := List.exists_cons_of_ne_nil hne
    have hc : c ≠ '\'' := by
      rintro rfl
      have := hs _ List.mem_cons_self
      revert this
      decide
    rw [h, readString_literal, readLiteral_append hs]
    intro t ht
    exact hc (List.head_eq_of_cons_eq ht)
  | longBasic =>
    have h : onLines '"' (s.contains '\n') (longBasicBody 0 s) ++ r = '"' :: '"' :: '"' ::
        ((if s.contains '\n' then ['\n'] else []) ++
          (longBasicBody 0 s ++ '"' :: '"' :: '"' :: r)) := by
      simp [onLines]
    rw [h, readString, dropLineEnd_append, readLongBasic_longBasicBody (by omega) s hr₁]
    exact fun hn => longBasicBody_lineEnd (hnewline hn) _
  | longLiteral hrun hs =>
    have h : onLines '\'' (s.contains '\n') s ++ r = '\'' :: '\'' :: '\'' ::
        ((if s.contains '\n' then ['\n'] else []) ++ (s ++ '\'' :: '\'' :: '\'' :: r)) := by
      simp [onLines]
    rw [h, readString, dropLineEnd_append, readLongLiteral_append hrun hs hr₂]
    exact fun hn => literal_lineEnd (hnewline hn) hs _

/-! ## Keys -/

/-- What a key may be written as: bare, or as a string on one line. -/
inductive KeyForm (s : List Char) : List Char → Prop
  | bare : isBareKey s = true → KeyForm s s
  | basic : KeyForm s (onOneLine '"' (basicBody s))
  | literal : (∀ c ∈ s, isLiteralChar c = true) → KeyForm s (onOneLine '\'' s)

theorem isLiteralChar_of_mem {s : List Char} (hcontrol : ∀ c ∈ s, isControl c = false ∧ c ≠ '\n')
    (hquote : '\'' ∉ s) : ∀ c ∈ s, isLiteralChar c = true := by
  intro c hc
  obtain ⟨h, hnewline⟩ := hcontrol c hc
  refine (isLiteralChar_of_not_isControl h ?_).resolve_right hnewline
  rintro rfl
  exact hquote hc

theorem keyForm_writtenKey (s : List Char) : KeyForm s (writtenKey s) := by
  unfold writtenKey
  simp only
  split
  · next h => exact .bare h
  · split
    · exact .basic
    · split
      · next h =>
        simp only [Bool.and_eq_true, Bool.not_eq_true', List.any_eq_false, Bool.or_eq_true,
          decide_eq_true_eq, not_or, Bool.not_eq_true] at h
        exact .literal (isLiteralChar_of_mem h.1 (by simpa using h.2))
      · exact .basic

/-- A string that was written on one line can be a key. -/
theorem keyForm_written {s : List Char}
    (h : ∀ q ∈ ['"', '\''], ∀ t, written s ≠ q :: q :: q :: t) : KeyForm s (written s) := by
  have hform := writtenForm_written s
  generalize written s = w at h hform ⊢
  cases hform with
  | basic => exact .basic
  | literal _ hs => exact .literal hs
  | longBasic => exact absurd rfl (h '"' (by simp) _)
  | longLiteral => exact absurd rfl (h '\'' (by simp) _)

/-- **A written key is read back** in front of a character that can not be part of it. -/
theorem readKeyPart_keyForm {s w : List Char} (h : KeyForm s w) {r : List Char}
    (hr : ∀ c t, r = c :: t → isBareChar c = false) :
    readKeyPart (w ++ r) = some (String.ofList s, r) := by
  cases h with
  | bare hs =>
    rw [isBareKey, Bool.and_eq_true, List.all_eq_true] at hs
    obtain ⟨hne, hall⟩ := hs
    have htake : (s ++ r).takeWhile isBareChar = s := by
      rw [List.takeWhile_append_of_pos hall]
      cases r with
      | nil => simp
      | cons c t => simp [hr c t rfl]
    have hdrop : (s ++ r).dropWhile isBareChar = r := dropWhile_of_takeWhile htake
    have hbare : ∀ c t, s ++ r = c :: t → isBareChar c = true := by
      intro c t heq
      obtain ⟨d, s, rfl⟩ := List.exists_cons_of_ne_nil (show s ≠ [] by simpa using hne)
      rw [← List.head_eq_of_cons_eq heq]
      exact hall d List.mem_cons_self
    unfold readKeyPart
    split
    · next t heq => cases hbare _ _ heq
    · next t heq => cases hbare _ _ heq
    · simp only [htake, hdrop]
      rw [if_neg (by simpa using hne)]
  | basic =>
    have h : onOneLine '"' (basicBody s) ++ r = '"' :: (basicBody s ++ '"' :: r) := by
      simp [onOneLine]
    rw [h, readKeyPart, readBasic_basicBody]
    rfl
  | literal hs =>
    have h : onOneLine '\'' s ++ r = '\'' :: (s ++ '\'' :: r) := by simp [onOneLine]
    rw [h, readKeyPart, readLiteral_append hs]
    rfl

theorem skipSpaces_keyForm {s w : List Char} (h : KeyForm s w) (r : List Char) :
    skipSpaces (w ++ r) = w ++ r := by
  cases h with
  | bare hs =>
    rw [isBareKey, Bool.and_eq_true, List.all_eq_true] at hs
    obtain ⟨hne, hall⟩ := hs
    obtain ⟨c, s, rfl⟩ := List.exists_cons_of_ne_nil (show s ≠ [] by simpa using hne)
    refine List.dropWhile_cons_of_neg ?_
    have hc := hall c List.mem_cons_self
    simp only [Bool.or_eq_true, decide_eq_true_eq, not_or]
    constructor
    · rintro rfl
      cases hc
    · rintro rfl
      cases hc
  | basic => rfl
  | literal _ => rfl

/-- A key in front of its equals sign. -/
theorem readKey_keyForm {s w : List Char} (h : KeyForm s w) (r : List Char) :
    readKey (w ++ ' ' :: '=' :: r) = some (([], String.ofList s), '=' :: r) := by
  have hparts : readKeyParts (nestingLimit - 1) (w ++ ' ' :: '=' :: r) =
      some ([String.ofList s], '=' :: r) := by
    change (readKeyPart (skipSpaces (w ++ ' ' :: '=' :: r))).bind _ = _
    have hspace : ∀ c t, ' ' :: '=' :: r = c :: t → isBareChar c = false := by
      intro c t heq
      cases heq
      decide
    rw [skipSpaces_keyForm h, readKeyPart_keyForm h hspace]
    rfl
  rw [readKey, hparts]
  rfl

end ValidatorKeys.Toml
