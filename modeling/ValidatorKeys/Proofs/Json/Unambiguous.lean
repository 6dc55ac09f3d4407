import ValidatorKeys.Proofs.Json.Strings

/-!
# The text of a JSON value determines the value

No two values have one text, and where one text follows another it can be told where the first
ends: strings end at their closing quote, arrays and objects at their closing bracket, and numbers
where no digit follows.  What kind of value a text holds is told by its first character.

    readString (s.flatMap escape ++ '"' :: r) = some (s, r)
    render level v ++ s = render level w ++ t  →  v = w ∧ s = t      where no digit starts s and t
-/

namespace ValidatorKeys.Json

/-! ## Definitions -/

def hexValue (c : Char) : Nat := if c.toNat < 58 then c.toNat - 48 else c.toNat - 87

/-- The character that stands behind a backslash for another, or for itself. -/
def shortEscape : Char → Char
  | 'n' => '\n'
  | 'r' => '\r'
  | 't' => '\t'
  | 'b' => '\x08'
  | 'f' => '\x0c'
  | c => c

/-- The characters up to the closing quote, without their escapes, and what follows it. -/
def readString : List Char → Option (List Char × List Char)
  | [] => none
  | '"' :: r => some ([], r)
  | '\\' :: 'u' :: '0' :: '0' :: a :: b :: r =>
    (readString r).map fun x => (Char.ofNat (16 * hexValue a + hexValue b) :: x.1, x.2)
  | '\\' :: e :: r => (readString r).map fun x => (shortEscape e :: x.1, x.2)
  | c :: r => (readString r).map fun x => (c :: x.1, x.2)

inductive Kind where
  | null
  | boolean
  | number
  | string
  | array
  | object
  deriving DecidableEq

def kind : Json → Kind
  | .null => .null
  | .bool _ => .boolean
  | .number _ => .number
  | .string _ => .string
  | .array _ => .array
  | .object _ => .object

/-- The kind of the value that begins with a character. -/
def Kind.ofFirst (c : Char) : Kind :=
  if c = 'n' then .null
  else if c = '"' then .string
  else if c = '[' then .array
  else if c = '\x7b' then .object
  else if c.isDigit then .number
  else .boolean

/-- A text with which no number goes on. -/
def Ends (s : List Char) : Prop := ∀ c, s.head? = some c → c.isDigit = false

/-! ## Strings -/

theorem hexValue_hexDigit : ∀ n < 16, hexValue (hexDigit n) = n := by decide

theorem readString_escape (c : Char) (r : List Char) :
    readString (escape c ++ r) = (readString r).map fun x => (c :: x.1, x.2) := by
  unfold escape
  -- the escapes of one character, those told by their number, the one with a number, and no escape
  iterate 5
    split
    · subst_vars
      rfl
  iterate 2
    split
    · next h =>
      rw [← Char.ofNat_toNat c, h]
      rfl
  split
  · next h =>
    have hhigh := hexValue_hexDigit (c.toNat / 16) (by omega)
    have hlow := hexValue_hexDigit (c.toNat % 16) (by omega)
    have hc : 16 * (c.toNat / 16) + c.toNat % 16 = c.toNat := by omega
    simp only [List.cons_append, List.nil_append, readString, hhigh, hlow, hc, Char.ofNat_toNat]
  · next hquote hbackslash _ _ _ _ _ _ =>
    rw [List.singleton_append, readString.eq_def]
    split <;> simp_all

/-- **A quoted string is read back**, with what follows it. -/
theorem readString_quoted (s r : List Char) :
    readString (s.flatMap escape ++ '"' :: r) = some (s, r) := by
  induction s with
  | nil => rfl
  | cons c s ih =>
    rw [List.flatMap_cons, List.append_assoc, readString_escape, ih]
    rfl

theorem quoted_append_inj {a b : String} {s t : List Char} (h : quoted a ++ s = quoted b ++ t) :
    a = b ∧ s = t := by
  simp only [quoted, List.cons_append, List.append_assoc, List.nil_append, List.cons.injEq,
    true_and] at h
  have hread := congrArg readString h
  rw [readString_quoted, readString_quoted, Option.some.injEq, Prod.mk.injEq] at hread
  exact hread.imp_left String.toList_inj.mp

/-! ## Numbers -/

theorem repr_ne_nil (n : Nat) : n.repr.toList ≠ [] := by
  rw [Nat.repr_eq_ofList_toDigits, String.toList_ofList]
  exact Nat.toDigits_ne_nil

theorem repr_inj {n m : Nat} (h : n.repr.toList = m.repr.toList) : n = m := by
  simp only [Nat.repr_eq_ofList_toDigits, String.toList_ofList] at h
  have hvalue := congrArg (fun ds => Nat.ofDigitChars 10 ds 0) h
  simpa only [Nat.ofDigitChars_toDigits (by decide : 1 < 10) (Nat.le_refl 10)] using hvalue

theorem takeWhile_repr_append (n : Nat) {s : List Char} (hs : Ends s) :
    (n.repr.toList ++ s).takeWhile Char.isDigit = n.repr.toList := by
  rw [List.takeWhile_append_of_pos (isDigit_repr n)]
  cases s with
  | nil => exact List.append_nil _
  | cons c s => rw [List.takeWhile_cons_of_neg (by simp [hs c rfl]), List.append_nil]

theorem repr_append_inj {n m : Nat} {s t : List Char} (hs : Ends s) (ht : Ends t)
    (h : n.repr.toList ++ s = m.repr.toList ++ t) : n = m ∧ s = t := by
  have hdigits := congrArg (List.takeWhile Char.isDigit) h
  rw [takeWhile_repr_append n hs, takeWhile_repr_append m ht] at hdigits
  rw [hdigits] at h
  exact ⟨repr_inj hdigits, List.append_cancel_left h⟩

/-! ## Kinds -/

theorem ofFirst_of_isDigit {c : Char} (h : c.isDigit = true) : Kind.ofFirst c = .number := by
  have hne : ∀ d : Char, d.isDigit = false → c ≠ d := by
    rintro d hd rfl
    rw [h] at hd
    cases hd
  unfold Kind.ofFirst
  rw [if_neg (hne _ (by decide)), if_neg (hne _ (by decide)), if_neg (hne _ (by decide)),
    if_neg (hne _ (by decide)), if_pos h]

/-- The first character of a text tells the kind of the value. -/
theorem head?_render (level : Nat) (v : Json) (s : List Char) :
    (render level v ++ s).head?.map Kind.ofFirst = some v.kind := by
  cases v with
  | null => rfl
  | bool b => cases b <;> rfl
  | number n =>
    obtain ⟨d, ds, hds⟩ := List.exists_cons_of_ne_nil (repr_ne_nil n)
    have hd := isDigit_repr n d (hds ▸ List.mem_cons_self)
    rw [render, hds, List.cons_append, List.head?_cons, Option.map_some, ofFirst_of_isDigit hd]
    rfl
  | string s => rfl
  | array vs => cases vs <;> rfl
  | object fs =>
    cases fs with
    | nil => rfl
    | cons f fs =>
      obtain ⟨k, v⟩ := f
      rfl

theorem kind_eq {level : Nat} {v w : Json} {s t : List Char}
    (h : render level v ++ s = render level w ++ t) : v.kind = w.kind := by
  have hv := head?_render level v s
  rw [h, head?_render] at hv
  exact (Option.some.inj hv).symm

/-! ## Values -/

theorem ends_cons {c : Char} {s : List Char} (h : c.isDigit = false) : Ends (c :: s) := by
  intro d hd
  cases hd
  exact h

theorem head?_newline (level : Nat) (s : List Char) : (newline level ++ s).head? = some '\n' := rfl

section

variable {s : List Char} (hs : s.head? = some '\n')

include hs

theorem ends_of_newline : Ends s := by
  intro c hc
  rw [hs, Option.some.injEq] at hc
  subst hc
  decide

theorem ends_renderItems (level : Nat) (vs : List Json) : Ends (renderItems level vs ++ s) := by
  cases vs with
  | nil => exact ends_of_newline hs
  | cons v vs => exact ends_cons (by decide)

theorem ends_renderFields (level : Nat) (fs : List (String × Json)) :
    Ends (renderFields level fs ++ s) := by
  cases fs with
  | nil => exact ends_of_newline hs
  | cons f fs =>
    obtain ⟨k, v⟩ := f
    exact ends_cons (by decide)

end

mutual

/-- **The text of a value determines the value**, and where it ends. -/
theorem render_append_inj (level : Nat) : ∀ (v w : Json) {s t : List Char}, Ends s → Ends t →
    render level v ++ s = render level w ++ t → v = w ∧ s = t
  | .null, w, s, t, _, _, h => by
    cases w with
    | null => exact ⟨rfl, List.append_cancel_left h⟩
    | _ => cases kind_eq h
  | .bool a, w, s, t, _, _, h => by
    cases w with
    | bool b => cases a <;> cases b <;> simp_all [render]
    | _ => cases kind_eq h
  | .number n, w, s, t, hs, ht, h => by
    cases w with
    | number m =>
      rw [render, render] at h
      exact (repr_append_inj hs ht h).imp_left (congrArg number)
    | _ => cases kind_eq h
  | .string a, w, s, t, _, _, h => by
    cases w with
    | string b =>
      rw [render, render] at h
      exact (quoted_append_inj h).imp_left (congrArg string)
    | _ => cases kind_eq h
  | .array [], w, s, t, _, _, h => by
    cases w with
    | array ws =>
      cases ws with
      | nil => exact ⟨rfl, List.append_cancel_left h⟩
      | cons w ws => simp [render, newline] at h
    | _ => cases kind_eq h
  | .array (v :: vs), w, s, t, _, _, h => by
    cases w with
    | array ws =>
      cases ws with
      | nil => simp [render, newline] at h
      | cons w ws =>
        simp only [render, List.cons_append, List.append_assoc, List.nil_append, List.cons.injEq,
          true_and, List.append_cancel_left_eq] at h
        have hn := head?_newline level
        obtain ⟨rfl, hitems⟩ := render_append_inj (level + 1) v w (ends_renderItems (hn _) _ vs)
          (ends_renderItems (hn _) _ ws) h
        obtain ⟨rfl, hclose⟩ := renderItems_append_inj (level + 1) vs ws (hn _) (hn _) hitems
        simpa using hclose
    | _ => cases kind_eq h
  | .object [], w, s, t, _, _, h => by
    cases w with
    | object gs =>
      cases gs with
      | nil => exact ⟨rfl, List.append_cancel_left h⟩
      | cons g gs => simp [render, newline] at h
    | _ => cases kind_eq h
  | .object ((k, v) :: fs), w, s, t, _, _, h => by
    cases w with
    | object gs =>
      cases gs with
      | nil => simp [render, newline] at h
      | cons g gs =>
        obtain ⟨l, w⟩ := g
        simp only [render, List.cons_append, List.append_assoc, List.nil_append, List.cons.injEq,
          true_and, List.append_cancel_left_eq] at h
        have hn := head?_newline level
        obtain ⟨rfl, hvalue⟩ := quoted_append_inj h
        simp only [List.cons.injEq, true_and] at hvalue
        obtain ⟨rfl, hfields⟩ := render_append_inj (level + 1) v w (ends_renderFields (hn _) _ fs)
          (ends_renderFields (hn _) _ gs) hvalue
        obtain ⟨rfl, hclose⟩ := renderFields_append_inj (level + 1) fs gs (hn _) (hn _) hfields
        simpa using hclose
    | _ => cases kind_eq h

theorem renderItems_append_inj (level : Nat) : ∀ (vs ws : List Json) {s t : List Char},
    s.head? = some '\n' → t.head? = some '\n' →
      renderItems level vs ++ s = renderItems level ws ++ t → vs = ws ∧ s = t
  | [], [], _, _, _, _, h => ⟨rfl, h⟩
  | [], w :: ws, s, _, hs, _, h => by
    obtain rfl : s = _ := h
    cases hs
  | v :: vs, [], _, t, _, ht, h => by
    obtain rfl : t = _ := h.symm
    cases ht
  | v :: vs, w :: ws, _, _, hs, ht, h => by
    simp only [renderItems, List.cons_append, List.append_assoc, List.cons.injEq, true_and,
      List.append_cancel_left_eq] at h
    obtain ⟨rfl, hitems⟩ := render_append_inj level v w (ends_renderItems hs level vs)
      (ends_renderItems ht level ws) h
    exact (renderItems_append_inj level vs ws hs ht hitems).imp_left (congrArg (v :: ·))

theorem renderFields_append_inj (level : Nat) : ∀ (fs gs : List (String × Json)) {s t : List Char},
    s.head? = some '\n' → t.head? = some '\n' →
      renderFields level fs ++ s = renderFields level gs ++ t → fs = gs ∧ s = t
  | [], [], _, _, _, _, h => ⟨rfl, h⟩
  | [], (l, w) :: gs, s, _, hs, _, h => by
    obtain rfl : s = _ := h
    cases hs
  | (k, v) :: fs, [], _, t, _, ht, h => by
    obtain rfl : t = _ := h.symm
    cases ht
  | (k, v) :: fs, (l, w) :: gs, _, _, hs, ht, h => by
    simp only [renderFields, List.cons_append, List.append_assoc, List.nil_append, List.cons.injEq,
      true_and, List.append_cancel_left_eq] at h
    obtain ⟨rfl, hvalue⟩ := quoted_append_inj h
    simp only [List.cons.injEq, true_and] at hvalue
    obtain ⟨rfl, hfields⟩ := render_append_inj level v w (ends_renderFields hs level fs)
      (ends_renderFields ht level gs) hvalue
    exact (renderFields_append_inj level fs gs hs ht hfields).imp_left (congrArg ((k, v) :: ·))

end

/-- **No two values have one text.** -/
theorem pretty_inj {v w : Json} (h : v.pretty = w.pretty) : v = w := by
  have hends : Ends [] := by
    rintro c ⟨⟩
  have htext : render 0 v ++ [] = render 0 w ++ [] := by
    simpa [pretty, ← String.toList_inj] using h
  exact (render_append_inj 0 v w hends hends htext).1

end ValidatorKeys.Json
