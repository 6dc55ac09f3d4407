import Mathlib.Data.List.Basic
import ValidatorKeys.Toml.Document

/-!
# What a reader takes

A reader takes characters from the front of a text and leaves the rest.  What it reads is decided by
the characters that it takes and by the rest of the line on which it stops: what stands on the lines
behind plays no part, nor does it whether a line ends in `\r\n` or in `\n`.

    read (u ++ r) = some (v, r)  →  read (u' ++ r') = some (v, r')

for every `u'` with the line endings of `u` changed so, and every `r'` with the same line in front.
-/

namespace ValidatorKeys.Toml

/-! ## Definitions -/

/-- A text with other line endings: some `\r\n` have become `\n`.  There is no other `\r`. -/
inductive Relines : List Char → List Char → Prop
  | nil : Relines [] []
  | change {u u' : List Char} : Relines u u' → Relines ('\r' :: '\n' :: u) ('\n' :: u')
  | keep {u u' : List Char} : Relines u u' → Relines ('\r' :: '\n' :: u) ('\r' :: '\n' :: u')
  | char {c : Char} {u u' : List Char} : c ≠ '\r' → Relines u u' → Relines (c :: u) (c :: u')

/-- A text in which `\r` stands in line endings only. -/
def Clean (u : List Char) : Prop := Relines u u

/-- Texts with the same line in front; only that of the first may end in `\r\n` where the other ends
in `\n`. -/
inductive SameLine : List Char → List Char → Prop
  | nil : SameLine [] []
  | newline (t t' : List Char) : SameLine ('\n' :: t) ('\n' :: t')
  | change (t t' : List Char) : SameLine ('\r' :: '\n' :: t) ('\n' :: t')
  | keep (t t' : List Char) : SameLine ('\r' :: '\n' :: t) ('\r' :: '\n' :: t')
  | char {c : Char} {r r' : List Char} : c ≠ '\r' → c ≠ '\n' → SameLine r r' →
      SameLine (c :: r) (c :: r')

/-- A reader that is decided by what it takes and the rest of the line. -/
def Framed {α : Type} (read : List Char → Option (α × List Char)) : Prop :=
  ∀ s v r, read s = some (v, r) → ∃ u, s = u ++ r ∧ Clean u ∧
    ∀ u' r', Relines u u' → SameLine r r' → read (u' ++ r') = some (v, r')

/-- What such a reader does with one text, of which it leaves `r`. -/
def FramedAt {α : Type} (read : List Char → Option (α × List Char)) (s : List Char) (v : α)
    (r : List Char) : Prop :=
  ∃ u, s = u ++ r ∧ Clean u ∧
    ∀ u' r', Relines u u' → SameLine r r' → read (u' ++ r') = some (v, r')

/-- A test that is decided by characters in front, which end no line. -/
def Decided (p : List Char → Bool) : Prop :=
  ∀ s, p s = true → ∃ front t, s = front ++ t ∧ (∀ c ∈ front, c ≠ '\r' ∧ c ≠ '\n') ∧
    ∀ t', p (front ++ t') = true

/-! ## Line endings -/

theorem Clean.cons {c : Char} {u : List Char} (hc : c ≠ '\r') (h : Clean u) : Clean (c :: u) :=
  .char hc h

theorem Clean.append {u w : List Char} (hu : Clean u) (hw : Clean w) : Clean (u ++ w) := by
  have : ∀ {u u' : List Char}, Relines u u' → Relines (u ++ w) (u' ++ w) := by
    intro u u' h
    induction h with
    | nil => exact hw
    | change _ ih => exact .change ih
    | keep _ ih => exact .keep ih
    | char hc _ ih => exact .char hc ih
  exact this hu

theorem clean_of_forall {u : List Char} (h : ∀ c ∈ u, c ≠ '\r') : Clean u := by
  induction u with
  | nil => exact .nil
  | cons c u ih => exact .char (h c (by simp)) (ih fun d hd => h d (by simp [hd]))

/-- Without a `\r` there is nothing to change. -/
theorem Relines.eq_of_forall {u u' : List Char} (h : Relines u u') (hu : ∀ c ∈ u, c ≠ '\r') :
    u' = u := by
  induction h with
  | nil => rfl
  | change _ _ => exact absurd rfl (hu '\r' (by simp))
  | keep _ _ => exact absurd rfl (hu '\r' (by simp))
  | char _ _ ih => rw [ih fun d hd => hu d (by simp [hd])]

theorem Relines.cons_inv {c : Char} {u w : List Char} (h : Relines (c :: u) w) (hc : c ≠ '\r') :
    ∃ u', w = c :: u' ∧ Relines u u' := by
  cases h with
  | change _ => exact absurd rfl hc
  | keep _ => exact absurd rfl hc
  | char _ h => exact ⟨_, rfl, h⟩

/-- A line ending stays one. -/
theorem Relines.return_inv {u w : List Char} (h : Relines ('\r' :: '\n' :: u) w) :
    ∃ u', Relines u u' ∧ (w = '\n' :: u' ∨ w = '\r' :: '\n' :: u') := by
  cases h with
  | change h => exact ⟨_, h, Or.inl rfl⟩
  | keep h => exact ⟨_, h, Or.inr rfl⟩
  | char hc _ => exact absurd rfl hc

/-- A change of line endings is one of the parts, as no line ending stands across them. -/
theorem Relines.append_inv {u w x : List Char} (h : Relines (u ++ w) x) (hu : Clean u) :
    ∃ u' w', x = u' ++ w' ∧ Relines u u' ∧ Relines w w' := by
  have : ∀ {u v : List Char}, Relines u v → ∀ {x}, Relines (u ++ w) x →
      ∃ u' w', x = u' ++ w' ∧ Relines u u' ∧ Relines w w' := by
    intro u v huv
    induction huv with
    | nil => exact fun {x} h => ⟨[], x, rfl, .nil, h⟩
    | change _ ih | keep _ ih =>
      intro x h
      obtain ⟨x', hx', rfl | rfl⟩ := Relines.return_inv h
      · obtain ⟨u', w', rfl, hu', hw'⟩ := ih hx'
        exact ⟨'\n' :: u', w', rfl, .change hu', hw'⟩
      · obtain ⟨u', w', rfl, hu', hw'⟩ := ih hx'
        exact ⟨'\r' :: '\n' :: u', w', rfl, .keep hu', hw'⟩
    | char hc _ ih =>
      intro x h
      obtain ⟨x', rfl, hx'⟩ := Relines.cons_inv h hc
      obtain ⟨u', w', rfl, hu', hw'⟩ := ih hx'
      exact ⟨_ :: u', w', rfl, .char hc hu', hw'⟩
  exact this hu h

/-- The line behind a text with other line endings. -/
theorem SameLine.append {u u' r r' : List Char} (hu : Relines u u')
    (hr : '\n' ∈ u ∨ SameLine r r') : SameLine (u ++ r) (u' ++ r') := by
  induction hu with
  | nil =>
    rcases hr with hr | hr
    · cases hr
    · exact hr
  | change _ _ => exact .change _ _
  | keep _ _ => exact .keep _ _
  | @char c u u' hc _ ih =>
    by_cases hn : c = '\n'
    · subst hn
      exact .newline _ _
    · refine .char hc hn (ih ?_)
      rcases hr with hr | hr
      · exact Or.inl ((List.mem_cons.mp hr).resolve_left fun h => hn h.symm)
      · exact Or.inr hr

/-- A character that ends no line stands in front of both texts or of none. -/
theorem SameLine.of_cons_right {c : Char} {s t : List Char} (h : SameLine s (c :: t))
    (hr : c ≠ '\r') (hn : c ≠ '\n') : ∃ t₀, s = c :: t₀ ∧ SameLine t₀ t := by
  cases h with
  | newline => exact absurd rfl hn
  | change => exact absurd rfl hn
  | keep => exact absurd rfl hr
  | char _ _ h => exact ⟨_, rfl, h⟩

theorem SameLine.of_cons {c : Char} {s t : List Char} (h : SameLine (c :: s) t) (hr : c ≠ '\r')
    (hn : c ≠ '\n') : ∃ t₀, t = c :: t₀ ∧ SameLine s t₀ := by
  cases h with
  | newline => exact absurd rfl hn
  | change => exact absurd rfl hr
  | keep => exact absurd rfl hr
  | char _ _ h => exact ⟨_, rfl, h⟩

/-- A relation that takes off one character of a line takes off a text within the line. -/
theorem exists_append_of_cons {R : List Char → List Char → Prop}
    (hcons : ∀ {c : Char} {s t : List Char}, R (c :: s) t → c ≠ '\r' → c ≠ '\n' →
      ∃ t₀, t = c :: t₀ ∧ R s t₀) {front s t : List Char}
    (hfront : ∀ c ∈ front, c ≠ '\r' ∧ c ≠ '\n') (h : R (front ++ s) t) :
    ∃ t₀, t = front ++ t₀ ∧ R s t₀ := by
  induction front generalizing t with
  | nil => exact ⟨t, rfl, h⟩
  | cons c front ih =>
    obtain ⟨hr, hn⟩ := hfront c List.mem_cons_self
    obtain ⟨t₀, rfl, h₀⟩ := hcons h hr hn
    obtain ⟨t₁, rfl, ht₁⟩ := ih (fun d hd => hfront d (List.mem_cons_of_mem _ hd)) h₀
    exact ⟨t₁, rfl, ht₁⟩

theorem SameLine.of_append_right {front s t : List Char}
    (hfront : ∀ c ∈ front, c ≠ '\r' ∧ c ≠ '\n') (h : SameLine s (front ++ t)) :
    ∃ t₀, s = front ++ t₀ ∧ SameLine t₀ t :=
  exists_append_of_cons (R := fun t s => SameLine s t) SameLine.of_cons_right hfront h

theorem SameLine.of_append {front s t : List Char}
    (hfront : ∀ c ∈ front, c ≠ '\r' ∧ c ≠ '\n') (h : SameLine (front ++ s) t) :
    ∃ t₀, t = front ++ t₀ ∧ SameLine s t₀ :=
  exists_append_of_cons SameLine.of_cons hfront h

/-- Such a test tells no difference between texts with the same line in front. -/
theorem Decided.of_sameLine {p : List Char → Bool} (hp : Decided p) {s t : List Char}
    (h : SameLine s t) : p t = p s := by
  rw [Bool.eq_iff_iff]
  constructor
  · intro ht
    obtain ⟨front, t₀, rfl, hfront, hpt⟩ := hp t ht
    obtain ⟨s₀, rfl, -⟩ := h.of_append_right hfront
    exact hpt s₀
  · intro hs
    obtain ⟨front, s₀, rfl, hfront, hps⟩ := hp s hs
    obtain ⟨t₀, rfl, -⟩ := h.of_append hfront
    exact hps t₀

theorem Decided.or {p q : List Char → Bool} (hp : Decided p) (hq : Decided q) :
    Decided fun s => p s || q s := by
  intro s hs
  rcases Bool.or_eq_true_iff.mp hs with hs | hs
  · obtain ⟨front, t, heq, hfront, ht⟩ := hp s hs
    exact ⟨front, t, heq, hfront, fun t' => by simp [ht t']⟩
  · obtain ⟨front, t, heq, hfront, ht⟩ := hq s hs
    exact ⟨front, t, heq, hfront, fun t' => by simp [ht t']⟩

theorem dropWhile_of_takeWhile {p : Char → Bool} {s t : List Char}
    (h : (s ++ t).takeWhile p = s) : (s ++ t).dropWhile p = t := by
  have := List.takeWhile_append_dropWhile (p := p) (l := s ++ t)
  rw [h] at this
  exact List.append_cancel_left this

/-- Characters that end no line and of which the first text has all that follow in a row. -/
theorem SameLine.takeWhile {p : Char → Bool} (hp : p '\r' = false) (hn : p '\n' = false)
    {s t : List Char} (h : SameLine s t) :
    t.takeWhile p = s.takeWhile p ∧ SameLine (s.dropWhile p) (t.dropWhile p) := by
  induction h with
  | nil => exact ⟨rfl, .nil⟩
  | newline t t' =>
    simp only [List.takeWhile_cons, List.dropWhile_cons, hn]
    exact ⟨rfl, .newline t t'⟩
  | change t t' =>
    simp only [List.takeWhile_cons, List.dropWhile_cons, hn, hp]
    exact ⟨rfl, .change t t'⟩
  | keep t t' =>
    simp only [List.takeWhile_cons, List.dropWhile_cons, hp]
    exact ⟨rfl, .keep t t'⟩
  | @char c r r' hr hc h ih =>
    simp only [List.takeWhile_cons, List.dropWhile_cons]
    cases p c with
    | true => exact ⟨congrArg (c :: ·) ih.1, ih.2⟩
    | false => exact ⟨rfl, .char hr hc h⟩

/-! ## Readers at one text -/

namespace FramedAt

variable {α β γ : Type} {f : List Char → Option (α × List Char)}
  {g : List Char → Option (β × List Char)} {s r : List Char} {v : α} {w : β}

/-- A reader that takes nothing. -/
theorem stop (h : ∀ s', SameLine s s' → f s' = some (v, s')) : FramedAt f s v s := by
  refine ⟨[], rfl, .nil, fun u' r' hu hr => ?_⟩
  cases hu
  exact h r' hr

/-- A reader that goes on like another one behind some characters. -/
theorem behind (h : FramedAt f s v r) {e : List Char} (he : ∀ c ∈ e, c ≠ '\r')
    (hg : ∀ s' r', SameLine s s' → f s' = some (v, r') → g (e ++ s') = some (w, r')) :
    FramedAt g (e ++ s) w r := by
  obtain ⟨u, rfl, hu, hf⟩ := h
  have hclean := clean_of_forall he
  refine ⟨e ++ u, (List.append_assoc ..).symm, hclean.append hu, fun u' r' hu' hr => ?_⟩
  obtain ⟨e', u₁, rfl, he', hu₁⟩ := hu'.append_inv hclean
  rw [he'.eq_of_forall he, List.append_assoc]
  exact hg _ r' (.append hu₁ (Or.inr hr)) (hf u₁ r' hu₁ hr)

/-- A reader that takes some characters and stops. -/
theorem take {e : List Char} (he : ∀ c ∈ e, c ≠ '\r')
    (h : ∀ s', SameLine s s' → f (e ++ s') = some (v, s')) : FramedAt f (e ++ s) v s := by
  have hstop : FramedAt (fun s => some ((), s)) s () s := stop fun _ _ => rfl
  refine hstop.behind he fun s' r' hline hs' => ?_
  cases hs'
  exact h s' hline

/-- A reader that goes on like another one behind a line ending. -/
theorem lineEnd (h : FramedAt f s v r)
    (hnewline : ∀ s' r', f s' = some (v, r') → g ('\n' :: s') = some (w, r'))
    (hreturn : ∀ s' r', f s' = some (v, r') → g ('\r' :: '\n' :: s') = some (w, r')) :
    FramedAt g ('\r' :: '\n' :: s) w r := by
  obtain ⟨u, rfl, hu, hf⟩ := h
  refine ⟨'\r' :: '\n' :: u, rfl, .keep hu, fun u' r' hu' hr => ?_⟩
  obtain ⟨u₁, hu₁, rfl | rfl⟩ := hu'.return_inv
  · exact hnewline _ r' (hf u₁ r' hu₁ hr)
  · exact hreturn _ r' (hf u₁ r' hu₁ hr)

/-- A reader that does what two do, one after the other. -/
theorem bind {s₁ : List Char} {k : List Char → Option (γ × List Char)} {x : γ}
    (hf : FramedAt f s v s₁) (hg : FramedAt g s₁ w r)
    (hk : ∀ s' s₁' r', SameLine s s' → f s' = some (v, s₁') → g s₁' = some (w, r') →
      k s' = some (x, r')) : FramedAt k s x r := by
  obtain ⟨u₁, rfl, hu₁, hf⟩ := hf
  obtain ⟨u₂, rfl, hu₂, hg⟩ := hg
  refine ⟨u₁ ++ u₂, (List.append_assoc ..).symm, hu₁.append hu₂, fun u' r' hu hr => ?_⟩
  obtain ⟨u₁', u₂', rfl, h₁, h₂⟩ := hu.append_inv hu₁
  rw [List.append_assoc]
  have hline : SameLine (u₂ ++ r) (u₂' ++ r') := .append h₂ (Or.inr hr)
  exact hk _ _ r' (.append h₁ (Or.inr hline)) (hf u₁' _ h₁ hline) (hg u₂' r' h₂ hr)

end FramedAt

/-! ## Readers -/

variable {α β : Type}

theorem framed_iff {f : List Char → Option (α × List Char)} :
    Framed f ↔ ∀ s v r, f s = some (v, r) → FramedAt f s v r := Iff.rfl

theorem Framed.at {f : List Char → Option (α × List Char)} (hf : Framed f) {s r : List Char} {v : α}
    (h : f s = some (v, r)) : FramedAt f s v r := framed_iff.mp hf s v r h

theorem framed_pure (v : α) : Framed fun s => some (v, s) := by
  refine framed_iff.mpr fun s w r h => ?_
  cases h
  exact .stop fun _ _ => rfl

theorem framed_none : Framed fun _ => (none : Option (α × List Char)) := by
  intro s w r h
  cases h

theorem Framed.bind {f : List Char → Option (α × List Char)}
    {g : α → List Char → Option (β × List Char)} (hf : Framed f) (hg : ∀ a, Framed (g a)) :
    Framed fun s => (f s).bind fun x => g x.1 x.2 := by
  refine framed_iff.mpr fun s v r h => ?_
  obtain ⟨⟨a, s₁⟩, hfs, hgs⟩ := Option.bind_eq_some_iff.mp h
  refine (hf.at hfs).bind ((hg a).at hgs) fun s' s₁' r' _ h₁ h₂ => ?_
  rw [h₁]
  exact h₂

theorem Framed.map {f : List Char → Option (α × List Char)} (hf : Framed f) (g : α → β) :
    Framed fun s => (f s).map fun x => (g x.1, x.2) := by
  refine framed_iff.mpr fun s v r h => ?_
  obtain ⟨⟨a, s₁⟩, hfs, heq⟩ := Option.map_eq_some_iff.mp h
  cases heq
  refine (hf.at hfs).bind ((framed_pure (g a)).at rfl) fun s' s₁' r' _ h₁ h₂ => ?_
  rw [h₁]
  exact h₂

theorem Framed.guard {f : List Char → Option (α × List Char)} (hf : Framed f) (p : Prop)
    [Decidable p] : Framed fun s => if p then f s else none := by
  by_cases hp : p
  · simp only [if_pos hp]
    exact hf
  · simp only [if_neg hp]
    exact framed_none

/-- A value that is there or not. -/
theorem framed_option (o : Option α) : Framed fun s => o.bind fun v => some (v, s) := by
  cases o with
  | none => exact framed_none
  | some v => exact framed_pure v

/-- A reader that goes on with other readers behind some texts, if a test on what follows holds, and
with one reader elsewhere. -/
theorem framed_of_fronts {read g : List Char → Option (α × List Char)}
    {f : List Char → List Char → Option (α × List Char)} {p : List Char → Bool}
    (fronts : List (List Char)) (hfronts : ∀ front ∈ fronts, ∀ c ∈ front, c ≠ '\r' ∧ c ≠ '\n')
    (hf : ∀ front ∈ fronts, Framed (f front)) (hg : Framed g) (hp : Decided p)
    (hthen : fronts.Forall fun front => ∀ t, p t = true → read (front ++ t) = f front t)
    (helse : ∀ s, (∀ front ∈ fronts, ∀ t, p t = true → s ≠ front ++ t) → read s = g s) :
    Framed read := by
  rw [List.forall_iff_forall_mem] at hthen
  refine framed_iff.mpr fun s v r h => ?_
  by_cases hs : ∃ front ∈ fronts, ∃ t, p t = true ∧ s = front ++ t
  · obtain ⟨front, hmem, t, hpt, rfl⟩ := hs
    rw [hthen front hmem t hpt] at h
    refine ((hf front hmem).at h).behind (fun c hc => (hfronts front hmem c hc).1)
      fun s' r' hline hf' => ?_
    rw [hthen front hmem s' (by rw [hp.of_sameLine hline, hpt]), hf']
  · have hs : ∀ front ∈ fronts, ∀ t, p t = true → s ≠ front ++ t := fun front hmem t hpt heq =>
      hs ⟨front, hmem, t, hpt, heq⟩
    rw [helse s hs] at h
    refine (hg.at h).behind (e := []) (by simp) fun s' r' hline hg' => ?_
    rw [List.nil_append, helse s' fun front hmem t hpt heq => ?_, hg']
    -- a text behind which the test holds would stand in front of both
    rw [heq] at hline
    obtain ⟨t₀, rfl, hline₀⟩ := hline.of_append_right (hfronts front hmem)
    rw [hp.of_sameLine hline₀] at hpt
    exact hs front hmem t₀ hpt rfl

theorem decided_true : Decided fun _ => true :=
  fun s _ => ⟨[], s, rfl, by simp, fun _ => rfl⟩

/-- A reader that is framed behind some texts, and that is another one elsewhere. -/
theorem framed_of_prefixes {read g : List Char → Option (α × List Char)}
    (fronts : List (List Char)) (hfronts : ∀ front ∈ fronts, ∀ c ∈ front, c ≠ '\r' ∧ c ≠ '\n')
    (hf : fronts.Forall fun front => Framed fun t => read (front ++ t)) (hg : Framed g)
    (helse : ∀ s, (∀ front ∈ fronts, ∀ t, s ≠ front ++ t) → read s = g s) : Framed read :=
  framed_of_fronts fronts hfronts (List.forall_iff_forall_mem.mp hf) hg decided_true
    (List.forall_iff_forall_mem.mpr fun _ _ _ _ => rfl)
    fun s hs => helse s fun front hmem t => hs front hmem t rfl

/-- A reader that goes on with one of two readers, by a test. -/
theorem framed_of_test {f g : List Char → Option (α × List Char)} {p : List Char → Bool}
    (hf : Framed f) (hg : Framed g) (hp : Decided p) :
    Framed fun s => if p s then f s else g s := by
  refine framed_of_fronts [[]] (by simp) (fun _ _ => hf) hg hp (fun t ht => if_pos ht)
    fun s hs => ?_
  exact if_neg fun h => hs [] (by simp) s h rfl

theorem eq_cons_of_readChar {c : Char} {s r : List Char} (h : readChar c s = some r) :
    s = c :: r := by
  cases s with
  | nil => cases h
  | cons d t =>
    rw [readChar] at h
    split at h
    · next hd =>
      cases h
      rw [hd]
    · cases h

theorem Framed.readChar {f : List Char → Option (α × List Char)} (hf : Framed f) {c : Char}
    (hc : c ≠ '\r') : Framed fun s => (readChar c s).bind f := by
  refine framed_iff.mpr fun s v r h => ?_
  obtain ⟨s₁, hs, hfs⟩ := Option.bind_eq_some_iff.mp h
  obtain rfl := eq_cons_of_readChar hs
  refine (hf.at hfs).behind (e := [c]) (by simpa using hc) fun s' r' _ hf' => ?_
  rw [List.singleton_append, Toml.readChar, if_pos rfl]
  exact hf'

/-- Characters of a class are taken as they are, as many as stand in a row. -/
theorem framed_takeWhile {p : Char → Bool} (hp : p '\r' = false) (hn : p '\n' = false) :
    Framed fun s => some (s.takeWhile p, s.dropWhile p) := by
  intro s v r h
  cases h
  have hreturn : ∀ c ∈ s.takeWhile p, c ≠ '\r' := by
    rintro c hc rfl
    have := List.all_eq_true.mp List.all_takeWhile _ hc
    rw [hp] at this
    cases this
  refine ⟨s.takeWhile p, List.takeWhile_append_dropWhile.symm, clean_of_forall hreturn,
    fun u' r' hu hr => ?_⟩
  have hsame := (SameLine.append hu (Or.inr hr)).takeWhile hp hn
  rw [List.takeWhile_append_dropWhile, hu.eq_of_forall hreturn] at hsame
  dsimp only
  rw [hu.eq_of_forall hreturn, hsame.1, dropWhile_of_takeWhile hsame.1]

/-- A reader behind characters of a class. -/
theorem Framed.dropWhile {f : List Char → Option (α × List Char)} (hf : Framed f)
    {p : Char → Bool} (hp : p '\r' = false) (hn : p '\n' = false) :
    Framed fun s => f (s.dropWhile p) := by
  refine framed_iff.mpr fun s v r h => ?_
  refine ((framed_takeWhile hp hn).at rfl).bind (hf.at h) fun s' s₁' r' _ h₁ h₂ => ?_
  obtain ⟨-, rfl⟩ := Prod.mk.inj (Option.some.inj h₁)
  exact h₂

end ValidatorKeys.Toml
