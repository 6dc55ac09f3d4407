import ValidatorKeys.Json.Value
import ValidatorKeys.Proofs.Text.LongNumbers

/-!
# The strings of a JSON value

The text of a value shows no long number when none of its strings does between its quotes: what
stands around the strings has no `x` in it, and an escape brings none in.

    (∀ s ∈ v.strings, Interrupted (quoted s))  →  Interrupted (render level v)
-/

namespace ValidatorKeys.Json

open Text (Interrupted isHexDigit interrupted_of_not_mem interrupted_short)

/-! ## Definitions -/

mutual

/-- The strings of a value, the names of fields included. -/
def strings : Json → List String
  | .null => []
  | .bool _ => []
  | .number _ => []
  | .string s => [s]
  | .array vs => itemStrings vs
  | .object fs => fieldStrings fs

def itemStrings : List Json → List String
  | [] => []
  | v :: vs => v.strings ++ itemStrings vs

def fieldStrings : List (String × Json) → List String
  | [] => []
  | (k, v) :: fs => k :: v.strings ++ fieldStrings fs

end

/-! ## Strings -/

@[simp] theorem strings_null : null.strings = [] := rfl

@[simp] theorem strings_bool (b : Bool) : (bool b).strings = [] := rfl

@[simp] theorem strings_number (n : Nat) : (number n).strings = [] := rfl

section

variable {P : String → Prop}

@[simp] theorem forall_strings_string {s : String} : (∀ t ∈ (string s).strings, P t) ↔ P s := by
  rw [strings, List.forall_mem_singleton]

@[simp] theorem forall_strings_array {vs : List Json} :
    (∀ s ∈ (array vs).strings, P s) ↔ ∀ v ∈ vs, ∀ s ∈ v.strings, P s := by
  have hitems : (array vs).strings = vs.flatMap strings := by
    rw [strings]
    induction vs with
    | nil => rfl
    | cons v vs ih => rw [itemStrings, ih, List.flatMap_cons]
  rw [hitems, List.forall_mem_flatMap]

@[simp] theorem forall_strings_object {fs : List (String × Json)} :
    (∀ s ∈ (object fs).strings, P s) ↔ ∀ f ∈ fs, P f.1 ∧ ∀ s ∈ f.2.strings, P s := by
  have hfields : (object fs).strings = fs.flatMap fun f => f.1 :: f.2.strings := by
    rw [strings]
    induction fs with
    | nil => rfl
    | cons f fs ih => rw [fieldStrings, ih, List.flatMap_cons]
  rw [hfields, List.forall_mem_flatMap]
  simp only [List.forall_mem_cons]

end

/-! ## Quoted strings -/

theorem hexDigit_ne : ∀ n < 16, hexDigit n ≠ 'x' := by decide

theorem eq_of_mem_escape {c : Char} (h : 'x' ∈ escape c) : c = 'x' := by
  unfold escape at h
  -- the escapes with a letter, the one with a number, and no escape
  iterate 7
    split at h
    · simp at h
  split at h
  · next hlow =>
    have hhigh := hexDigit_ne (c.toNat / 16) (by omega)
    have hlast := hexDigit_ne (c.toNat % 16) (by omega)
    simp [hhigh.symm, hlast.symm] at h
  · exact (List.mem_singleton.mp h).symm

theorem not_mem_quoted {s : String} (h : 'x' ∉ s.toList) : 'x' ∉ quoted s := by
  unfold quoted
  rw [List.mem_append, List.mem_cons, List.mem_flatMap]
  rintro ((hx | ⟨c, hc, hx⟩) | hx)
  · cases hx
  · exact h (eq_of_mem_escape hx ▸ hc)
  · cases List.mem_singleton.mp hx

theorem not_isAlphanum_of_lt : ∀ n < 48, (Char.ofNat n).isAlphanum = false := by decide

/-- Letters and digits stand for themselves. -/
theorem escape_alphanum {c : Char} (h : c.isAlphanum = true) : escape c = [c] := by
  have hne : ∀ d : Char, d.isAlphanum = false → c ≠ d := by
    rintro d hd rfl
    rw [h] at hd
    cases hd
  have hlow : 48 ≤ c.toNat := by
    by_contra hc
    rw [← Char.ofNat_toNat c, not_isAlphanum_of_lt _ (by omega)] at h
    cases h
  unfold escape
  rw [if_neg (hne _ (by decide)), if_neg (hne _ (by decide)), if_neg (hne _ (by decide)),
    if_neg (hne _ (by decide)), if_neg (hne _ (by decide)), if_neg (by omega), if_neg (by omega),
    if_neg (by omega)]

theorem flatMap_escape {s : List Char} (hs : s.all Char.isAlphanum = true) :
    s.flatMap escape = s := by
  induction s with
  | nil => rfl
  | cons c s ih =>
    rw [List.all_cons, Bool.and_eq_true] at hs
    rw [List.flatMap_cons, escape_alphanum hs.1, ih hs.2, List.singleton_append]

/-- A short word is interrupted by its closing quote. -/
theorem interrupted_quoted_short {s : String} (hlen : s.toList.length ≤ 15)
    (hs : s.toList.all Char.isAlphanum = true) : Interrupted (quoted s) := by
  have hword : Interrupted (s.toList ++ ['"']) :=
    interrupted_short hlen (by decide) (interrupted_of_not_mem (by decide))
  rw [quoted, flatMap_escape hs]
  exact hword.cons (by decide)

/-! ## Values -/

theorem isDigit_repr (n : Nat) : ∀ c ∈ n.repr.toList, c.isDigit = true := by
  rw [Nat.repr_eq_ofList_toDigits, String.toList_ofList]
  exact fun c hc => Nat.isDigit_of_mem_toDigits (by decide) (by decide) hc

@[simp] theorem not_mem_toDigits {c : Char} (hc : c.isDigit = false) (n : Nat) :
    c ∉ Nat.toDigits 10 n := by
  intro h
  rw [Nat.isDigit_of_mem_toDigits (by decide) (by decide) h] at hc
  cases hc

theorem interrupted_newline {c : Char} (hc : c ≠ 'x') (level : Nat) :
    Interrupted (c :: newline level) := by
  refine interrupted_of_not_mem fun hx => ?_
  rcases List.mem_cons.mp hx with hx | hx
  · exact hc hx.symm
  rcases List.mem_cons.mp hx with hx | hx
  · cases hx
  · cases List.eq_of_mem_replicate hx

/-- What an array or an object ends with. -/
theorem interrupted_close {c : Char} {t : List Char} (ht : Interrupted t) (hc : c ≠ 'x')
    (level : Nat) : Interrupted (t ++ newline level ++ [c]) := by
  rw [List.append_assoc]
  refine ht.append (interrupted_of_not_mem fun hx => ?_)
  rcases List.mem_append.mp hx with hx | hx
  · rcases List.mem_cons.mp hx with hx | hx
    · cases hx
    · cases List.eq_of_mem_replicate hx
  · exact hc (List.mem_singleton.mp hx).symm

/-- A field behind the text in front of it. -/
theorem interrupted_field {t : List Char} {k : String} {v : List Char} (ht : Interrupted t)
    (hk : Interrupted (quoted k)) (hv : Interrupted v) :
    Interrupted (t ++ quoted k ++ [':', ' '] ++ v) :=
  ((ht.append hk).append (interrupted_of_not_mem (by decide))).append hv

mutual

/-- **The text of a value is interrupted where each of its strings is.** -/
theorem interrupted_render (level : Nat) :
    ∀ v : Json, (∀ s ∈ v.strings, Interrupted (quoted s)) → Interrupted (render level v)
  | .null, _ => by
    rw [render]
    exact interrupted_of_not_mem (by decide)
  | .bool b, _ => by
    rw [render]
    exact interrupted_of_not_mem (by cases b <;> decide)
  | .number n, _ => by
    rw [render]
    exact interrupted_of_not_mem (by simp)
  | .string s, h => by
    rw [render]
    exact h s List.mem_cons_self
  | .array [], _ => by
    rw [render]
    exact interrupted_of_not_mem (by decide)
  | .array (v :: vs), h => by
    have hv := interrupted_render (level + 1) v fun s hs => h s (List.mem_append_left _ hs)
    have hvs := interrupted_renderItems (level + 1) vs fun s hs => h s (List.mem_append_right _ hs)
    rw [render]
    exact interrupted_close (((interrupted_newline (by decide) _).append hv).append hvs)
      (by decide) level
  | .object [], _ => by
    rw [render]
    exact interrupted_of_not_mem (by decide)
  | .object ((k, v) :: fs), h => by
    have hk := h k List.mem_cons_self
    have hv := interrupted_render (level + 1) v fun s hs =>
      h s (List.mem_append_left _ (List.mem_cons_of_mem k hs))
    have hfs := interrupted_renderFields (level + 1) fs fun s hs => h s (List.mem_append_right _ hs)
    rw [render]
    exact interrupted_close
      ((interrupted_field (interrupted_newline (by decide) _) hk hv).append hfs) (by decide) level

theorem interrupted_renderItems (level : Nat) :
    ∀ vs : List Json, (∀ s ∈ itemStrings vs, Interrupted (quoted s)) →
      Interrupted (renderItems level vs)
  | [], _ => Text.interrupted_nil
  | v :: vs, h => by
    have hv := interrupted_render level v fun s hs => h s (List.mem_append_left _ hs)
    have hvs := interrupted_renderItems level vs fun s hs => h s (List.mem_append_right _ hs)
    rw [renderItems]
    exact ((interrupted_newline (by decide) _).append hv).append hvs

theorem interrupted_renderFields (level : Nat) :
    ∀ fs : List (String × Json), (∀ s ∈ fieldStrings fs, Interrupted (quoted s)) →
      Interrupted (renderFields level fs)
  | [], _ => Text.interrupted_nil
  | (k, v) :: fs, h => by
    have hk := h k List.mem_cons_self
    have hv := interrupted_render level v fun s hs =>
      h s (List.mem_append_left _ (List.mem_cons_of_mem k hs))
    have hfs := interrupted_renderFields level fs fun s hs => h s (List.mem_append_right _ hs)
    rw [renderFields]
    exact (interrupted_field (interrupted_newline (by decide) _) hk hv).append hfs

end

end ValidatorKeys.Json
