import Mathlib.Data.Nat.Digits.Defs
import ValidatorKeys.Proofs.Text.Lines
import ValidatorKeys.Text.Natural

/-!
# Numbers between blanks

A text spells a number when it is decimal digits, at least one, behind at most one plus sign, with
nothing but blanks around.  Leading zeros are digits like the others.  What is read of a trimmed
text is the number that the text spells, if that is below `2 ^ 64`.

    word? (trim s) = some n  ↔  Spells s n ∧ n < 2 ^ 64
-/

namespace ValidatorKeys.Text

/-! ## Definitions -/

/-- The number that decimal digits denote, the last of them being the ones. -/
def denoted (digits : List Char) : Nat :=
  Nat.ofDigits 10 (digits.reverse.map fun d => d.toNat - '0'.toNat)

def Spells (s : List Char) (n : Nat) : Prop :=
  ∃ before sign digits after, s = before ++ (sign ++ digits) ++ after ∧
    allBlank before = true ∧ allBlank after = true ∧ (sign = [] ∨ sign = ['+']) ∧
    digits ≠ [] ∧ digits.all Char.isDigit = true ∧ denoted digits = n

/-! ## Digits -/

theorem decimalValue_eq_denoted (ds : List Char) : decimalValue ds = denoted ds := by
  rw [decimalValue, denoted, Nat.ofDigits_eq_foldr, List.foldr_map, List.foldr_reverse]
  congr 1
  funext n d
  exact Nat.add_comm _ _

theorem isBlank_of_isDigit {c : Char} (h : c.isDigit = true) : isBlank c = false := by
  rw [Char.isDigit, Bool.and_eq_true, decide_eq_true_eq, decide_eq_true_eq] at h
  have h₁ : 48 ≤ c.toNat := h.1
  have h₂ : c.toNat ≤ 57 := h.2
  simp only [isBlank, Bool.or_eq_false_iff, Bool.and_eq_false_imp, decide_eq_true_eq,
    decide_eq_false_iff_not, not_le, beq_eq_false_iff_ne, ne_eq]
  omega

/-! ## Signs -/

theorem exists_sign (s : List Char) :
    ∃ sign, s = sign ++ dropPlus s ∧ (sign = [] ∨ sign = ['+']) := by
  unfold dropPlus
  split
  · exact ⟨['+'], rfl, Or.inr rfl⟩
  · exact ⟨[], rfl, Or.inl rfl⟩

theorem dropPlus_sign {sign ds : List Char} (hsign : sign = [] ∨ sign = ['+'])
    (hds : ds.all Char.isDigit = true) : dropPlus (sign ++ ds) = ds := by
  rcases hsign with rfl | rfl
  · -- a plus sign is no digit
    cases ds with
    | nil => rfl
    | cons d ds =>
      unfold dropPlus
      split
      · next heq =>
        cases heq
        rw [List.all_cons, show Char.isDigit '+' = false by decide] at hds
        cases hds
      · rfl
  · rfl

theorem isBlank_of_mem_sign {sign : List Char} {c : Char} (hsign : sign = [] ∨ sign = ['+'])
    (h : c ∈ sign) : isBlank c = false := by
  rcases hsign with rfl | rfl
  · cases h
  · rw [List.mem_singleton.mp h]
    decide

/-! ## Top theorems -/

theorem Spells.exists_not_blank {s : List Char} {n : Nat} (h : Spells s n) :
    ∃ c ∈ s, isBlank c = false := by
  obtain ⟨before, sign, digits, after, rfl, -, -, -, hne, hall, -⟩ := h
  obtain ⟨d, ds, rfl⟩ := List.exists_cons_of_ne_nil hne
  exact ⟨d, by simp, isBlank_of_isDigit (List.all_eq_true.mp hall d List.mem_cons_self)⟩

theorem word?_eq_some_iff {s : List Char} {n : Nat} :
    word? s = some n ↔ dropPlus s ≠ [] ∧ (dropPlus s).all Char.isDigit = true ∧
      denoted (dropPlus s) = n ∧ n < 2 ^ 64 := by
  have hpow : Nat.pow 2 64 = 2 ^ 64 := rfl
  unfold word?
  simp only [decimalValue_eq_denoted, hpow]
  split
  · next h =>
    rw [Bool.or_eq_true, List.isEmpty_iff, Bool.not_eq_true'] at h
    refine iff_of_false (by simp) ?_
    rintro ⟨hne, hall, -⟩
    rcases h with h | h
    · exact hne h
    · rw [hall] at h
      cases h
  · next h =>
    rw [Bool.or_eq_true, List.isEmpty_iff, Bool.not_eq_true', not_or, Bool.not_eq_false] at h
    split
    · next hlt =>
      rw [Option.some.injEq]
      exact ⟨fun heq => ⟨h.1, h.2, heq, heq ▸ hlt⟩, fun hn => hn.2.2.1⟩
    · next hlt =>
      refine iff_of_false (by simp) ?_
      rintro ⟨-, -, rfl, hn⟩
      exact hlt hn

/-- **A trimmed text is read as the number that it spells**, where that has 64 bits. -/
theorem word?_trim_eq_some_iff {s : List Char} {n : Nat} :
    word? (trim s) = some n ↔ Spells s n ∧ n < 2 ^ 64 := by
  rw [word?_eq_some_iff]
  constructor
  · rintro ⟨hne, hall, hn, hlt⟩
    obtain ⟨before, after, hs, hbefore, hafter⟩ := exists_trim s
    obtain ⟨sign, htrim, hsign⟩ := exists_sign (trim s)
    refine ⟨⟨before, sign, dropPlus (trim s), after, ?_, hbefore, hafter, hsign, hne, hall, hn⟩,
      hlt⟩
    rw [← htrim]
    exact hs
  · rintro ⟨⟨before, sign, digits, after, rfl, hbefore, hafter, hsign, hne, hall, hn⟩, hlt⟩
    have hinner : trim (sign ++ digits) = sign ++ digits := by
      refine trim_eq_self fun c hc => ?_
      rcases List.mem_append.mp hc with hc | hc
      · exact isBlank_of_mem_sign hsign hc
      · exact isBlank_of_isDigit (List.all_eq_true.mp hall c hc)
    rw [trim_between hbefore hafter, hinner, dropPlus_sign hsign hall]
    exact ⟨hne, hall, hn, hlt⟩

end ValidatorKeys.Text
