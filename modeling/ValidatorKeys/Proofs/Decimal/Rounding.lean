import Mathlib.Data.Rat.Defs
import Mathlib.Algebra.Order.Field.Rat
import Mathlib.Algebra.Order.Field.Power
import Mathlib.Tactic.FieldSimp
import Mathlib.Tactic.Linarith
import Mathlib.Tactic.Positivity
import Mathlib.Tactic.Ring
import Mathlib.Tactic.NormNum
import ValidatorKeys.Decimal.Binary64

/-!
# Rounding to binary floating point numbers
-/

namespace ValidatorKeys.Binary64

/-! ## Definitions -/

/-- A number as reading gives it: the mantissa is below `2 ^ 53`, and at least `2 ^ 52` unless the
exponent is least. -/
def Canonical : Binary64 → Prop
  | .nan => True
  | .infinite _ => True
  | .finite _ m e => m < 2 ^ 53 ∧ leastExponent ≤ e ∧ e ≤ greatestExponent ∧
      (2 ^ 52 ≤ m ∨ e = leastExponent)

/-! ## Lemmas -/

section

variable {base num den : Nat}

theorem scale_den_pos (hbase : 0 < base) (hden : 0 < den) (e : Int) :
    0 < (scale base num den e).2 := by
  unfold scale
  split
  · exact hden
  · exact Nat.mul_pos hden (Nat.pow_pos hbase)

/-- Scaling multiplies a fraction by a power of the base. -/
theorem scale_ratio (hbase : 0 < base) (e : Int) :
    ((scale base num den e).1 : ℚ) / (scale base num den e).2 =
      (num : ℚ) / den * (base : ℚ) ^ e := by
  have hbase' : (base : ℚ) ≠ 0 := by positivity
  unfold scale
  split
  · next he =>
    obtain ⟨n, rfl⟩ := Int.eq_ofNat_of_zero_le he
    simp only [Int.toNat_natCast, zpow_natCast, Nat.pow_eq]
    push_cast
    ring
  · next he =>
    obtain ⟨n, hn⟩ := Int.eq_ofNat_of_zero_le (show 0 ≤ -e by omega)
    obtain rfl : e = -(n : Int) := by omega
    simp only [neg_neg, Int.toNat_natCast, zpow_neg, zpow_natCast, Nat.pow_eq]
    push_cast
    rw [div_mul_eq_div_div, div_eq_mul_inv ((num : ℚ) / den)]

/-- Scaling down by a power of the base. -/
theorem scale_neg_ratio (hbase : 0 < base) (hden : 0 < den) (num : Nat) (e : Int) :
    0 < (scale base num den (-e)).2 ∧
      ((scale base num den (-e)).1 : ℚ) / (scale base num den (-e)).2 =
        (num : ℚ) / den / (base : ℚ) ^ e := by
  refine ⟨scale_den_pos hbase hden _, ?_⟩
  rw [scale_ratio hbase, zpow_neg, ← div_eq_mul_inv]

/-- A whole number times a power of the base. -/
theorem scale_one_ratio (hbase : 0 < base) (num : Nat) (e : Int) :
    ((scale base num 1 e).1 : ℚ) / (scale base num 1 e).2 = num * (base : ℚ) ^ e := by
  rw [scale_ratio hbase, Nat.cast_one, div_one]

theorem scale_num_pos (hbase : 0 < base) (hnum : 0 < num) (e : Int) :
    0 < (scale base num den e).1 := by
  unfold scale
  split
  · exact Nat.mul_pos hnum (Nat.pow_pos hbase)
  · exact hnum

end

theorem roundDiv_cases (num den : Nat) :
    roundDiv num den = num / den ∨ roundDiv num den = num / den + 1 := by
  unfold roundDiv
  simp only
  split
  · exact Or.inl rfl
  · split
    · exact Or.inr rfl
    · split
      · exact Or.inl rfl
      · exact Or.inr rfl

theorem roundDiv_eq_of_mul {num den m : Nat} (hden : 0 < den)
    (hlow : 2 * (m * den) ≤ 2 * num + den) (hhigh : 2 * num ≤ 2 * (m * den) + den)
    (htie : 2 * (m * den) = 2 * num + den ∨ 2 * num = 2 * (m * den) + den → m % 2 = 0) :
    roundDiv num den = m := by
  have hdiv := Nat.div_add_mod num den
  have hmod := Nat.mod_lt num hden
  rw [Nat.mul_comm] at hdiv
  unfold roundDiv
  simp only
  generalize num / den = q at hdiv ⊢
  generalize num % den = r at hdiv hmod ⊢
  -- the quotient is `m`, or one less
  have hq : q = m ∨ q + 1 = m := by
    rcases Nat.lt_trichotomy q m with h | h | h
    · right
      by_contra hne
      have h2 : q + 2 ≤ m := by omega
      have := Nat.mul_le_mul_right den h2
      rw [Nat.add_mul] at this
      omega
    · exact Or.inl h
    · have := Nat.mul_le_mul_right den (show m + 1 ≤ q from h)
      rw [Nat.add_mul] at this
      omega
  rcases hq with rfl | rfl
  · have hr : 2 * r ≤ den := by omega
    rw [if_neg (by omega : ¬den < 2 * r)]
    by_cases h : 2 * r < den
    · rw [if_pos h]
    · have := htie (Or.inr (by omega))
      rw [if_neg h, if_pos this]
  · rw [Nat.add_mul, Nat.one_mul] at hlow hhigh htie
    have hr : den ≤ 2 * r := by omega
    rw [if_neg (by omega : ¬2 * r < den)]
    by_cases h : den < 2 * r
    · rw [if_pos h]
    · have := htie (Or.inl (by omega))
      rw [if_neg h, if_neg (by omega)]

/-- A fraction at most a half from a whole number is rounded to it; at exactly a half, when it is
even. -/
theorem roundDiv_eq {num den m : Nat} (hden : 0 < den) (hlow : (m : ℚ) - 1 / 2 ≤ num / den)
    (hhigh : (num : ℚ) / den ≤ m + 1 / 2)
    (htie : m % 2 = 1 → (m : ℚ) - 1 / 2 < num / den ∧ (num : ℚ) / den < m + 1 / 2) :
    roundDiv num den = m := by
  have hden₀ : (0 : ℚ) < den := by exact_mod_cast hden
  rw [le_div_iff₀ hden₀] at hlow
  rw [div_le_iff₀ hden₀] at hhigh
  rw [lt_div_iff₀ hden₀, div_lt_iff₀ hden₀] at htie
  refine roundDiv_eq_of_mul hden ?_ ?_ fun h => ?_
  · have : (2 : ℚ) * (m * den) ≤ 2 * num + den := by linarith
    exact_mod_cast this
  · have : (2 : ℚ) * num ≤ 2 * (m * den) + den := by linarith
    exact_mod_cast this
  · by_contra hodd
    obtain ⟨h₁, h₂⟩ := htie (by omega)
    rcases h with h | h
    · have : (2 : ℚ) * (m * den) = 2 * num + den := by exact_mod_cast h
      linarith
    · have : (2 : ℚ) * num = 2 * (m * den) + den := by exact_mod_cast h
      linarith

/-! ## Binades -/

section

variable {num den : Nat} (hnum : 0 < num) (hden : 0 < den)

include hnum hden

/-- A positive fraction, scaled by its binade, lies between `2 ^ 52` and `2 ^ 53`. -/
theorem binade_spec :
    (2 : ℚ) ^ 52 * 2 ^ binade num den ≤ (num : ℚ) / den ∧
      (num : ℚ) / den < 2 ^ 53 * 2 ^ binade num den := by
  have hnum₁ : (2 : ℚ) ^ num.log2 ≤ num := by
    exact_mod_cast Nat.log2_self_le (by omega)
  have hnum₂ : (num : ℚ) < 2 ^ (num.log2 + 1) := by
    exact_mod_cast Nat.lt_log2_self
  have hden₁ : (2 : ℚ) ^ den.log2 ≤ den := by
    exact_mod_cast Nat.log2_self_le (by omega)
  have hden₂ : (den : ℚ) < 2 ^ (den.log2 + 1) := by
    exact_mod_cast Nat.lt_log2_self
  have hden₀ : (0 : ℚ) < den := by exact_mod_cast hden
  unfold binade
  simp only [Nat.pow_eq]
  generalize num.log2 = a at *
  generalize den.log2 = b at *
  have hpow : (2 : ℚ) ^ ((a : Int) - b - 53) = 2 ^ a / (2 ^ b * 2 ^ 53) := by
    rw [zpow_sub₀ two_ne_zero, zpow_sub₀ two_ne_zero, zpow_natCast, zpow_natCast,
      div_div]
    rfl
  have hlow : (2 : ℚ) ^ 52 * 2 ^ ((a : Int) - b - 53) ≤ (num : ℚ) / den := by
    rw [hpow, le_div_iff₀ hden₀]
    calc (2 : ℚ) ^ 52 * (2 ^ a / (2 ^ b * 2 ^ 53)) * den
        ≤ 2 ^ 52 * (2 ^ a / (2 ^ b * 2 ^ 53)) * 2 ^ (b + 1) := by gcongr
      _ = 2 ^ a := by
        rw [pow_succ (2 : ℚ) b]
        field_simp
      _ ≤ num := hnum₁
  have hhigh : (num : ℚ) / den < 2 ^ 54 * 2 ^ ((a : Int) - b - 53) := by
    rw [hpow, div_lt_iff₀ hden₀]
    calc (num : ℚ) < 2 ^ (a + 1) := hnum₂
      _ = 2 ^ 54 * (2 ^ a / (2 ^ b * 2 ^ 53)) * 2 ^ b := by
        rw [pow_succ (2 : ℚ) a]
        field_simp
      _ ≤ 2 ^ 54 * (2 ^ a / (2 ^ b * 2 ^ 53)) * den := by gcongr
  generalize (a : Int) - b - 53 = e at *
  have he : (0 : ℚ) < 2 ^ e := by positivity
  obtain ⟨hx₂, hx⟩ := scale_neg_ratio two_pos hden num e
  rw [Nat.cast_ofNat] at hx
  replace hx₂ : (0 : ℚ) < (scale 2 num den (-e)).2 := by exact_mod_cast hx₂
  split
  · next h =>
    have h' : (2 : ℚ) ^ 53 * (scale 2 num den (-e)).2 ≤ (scale 2 num den (-e)).1 := by
      rw [mul_comm]
      exact_mod_cast h
    rw [← le_div_iff₀ hx₂, hx, le_div_iff₀ he] at h'
    rw [zpow_add_one₀ two_ne_zero]
    constructor
    · linarith
    · linarith
  · next h =>
    have h' : ((scale 2 num den (-e)).1 : ℚ) < 2 ^ 53 * (scale 2 num den (-e)).2 := by
      rw [mul_comm]
      exact_mod_cast Nat.lt_of_not_le h
    rw [← div_lt_iff₀ hx₂, hx, div_lt_iff₀ he] at h'
    exact ⟨hlow, h'⟩

/-- The binade is the only exponent that scales a fraction so. -/
theorem binade_eq {e : Int} (hlow : (2 : ℚ) ^ 52 * 2 ^ e ≤ (num : ℚ) / den)
    (hhigh : (num : ℚ) / den < 2 ^ 53 * 2 ^ e) : binade num den = e := by
  obtain ⟨h₁, h₂⟩ := binade_spec hnum hden
  have hstep : ∀ i j : Int, (2 : ℚ) ^ 52 * 2 ^ i < 2 ^ 53 * 2 ^ j → i ≤ j := by
    intro i j h
    have h' : (2 : ℚ) ^ i < 2 ^ (j + 1) := by
      rw [zpow_add_one₀ two_ne_zero]
      linarith
    have := (zpow_lt_zpow_iff_right₀ one_lt_two).mp h'
    omega
  have := hstep _ _ (h₁.trans_lt hhigh)
  have := hstep _ _ (hlow.trans_lt h₂)
  omega

/-- A fraction is rounded at the exponent that scales it so, or at the least one when it is smaller
there. -/
theorem max_binade_eq {e : Int} (hleast : leastExponent ≤ e)
    (hlow : (2 : ℚ) ^ 52 * 2 ^ e ≤ (num : ℚ) / den ∨ e = leastExponent)
    (hhigh : (num : ℚ) / den < 2 ^ 53 * 2 ^ e) : max (binade num den) leastExponent = e := by
  by_cases hle : (2 : ℚ) ^ 52 * 2 ^ e ≤ (num : ℚ) / den
  · rw [binade_eq hnum hden hle hhigh]
    omega
  · have hlt := (binade_spec hnum hden).1.trans_lt (not_le.mp hle)
    have hpow : (2 : ℚ) ^ binade num den < 2 ^ e := by linarith
    have := (zpow_lt_zpow_iff_right₀ one_lt_two).mp hpow
    have := hlow.resolve_left hle
    omega

end

/-! ## Rounding -/

/-- The exponent that a fraction is rounded at, and the mantissa that it gets there. -/
theorem ofFraction_eq (negative : Bool) (num den : Nat) {e : Int} {m : Nat}
    (he : max (binade num den) leastExponent = e)
    (hm : roundDiv (scale 2 num den (-e)).1 (scale 2 num den (-e)).2 = m) :
    ofFraction negative num den =
      if m = 2 ^ 53 then
        if greatestExponent < e + 1 then .infinite negative else .finite negative (2 ^ 52) (e + 1)
      else if greatestExponent < e then .infinite negative else .finite negative m e := by
  unfold ofFraction
  simp only [he, hm]
  rfl

/-- A fraction that is read as `m * 2 ^ e`: it is no further from it than half way to its
neighbours, and nearer when `m` is odd.  The neighbour below the least mantissa is nearer. -/
structure Within (m : Nat) (e : Int) (x : ℚ) : Prop where
  low : ((m : ℚ) - (if m = 2 ^ 52 ∧ leastExponent < e then 1 / 4 else 1 / 2)) * 2 ^ e ≤ x
  high : x ≤ (m + 1 / 2) * 2 ^ e
  strict : m % 2 = 1 → ((m : ℚ) - 1 / 2) * 2 ^ e < x ∧ x < (m + 1 / 2) * 2 ^ e

section

variable {num den m : Nat} {e : Int} {x : ℚ}

theorem Within.half_le (h : Within m e x) : ((m : ℚ) - 1 / 2) * 2 ^ e ≤ x := by
  refine le_trans ?_ h.low
  gcongr
  split
  · norm_num
  · norm_num

/-- Only the interval of the least mantissa reaches below it. -/
theorem Within.eq_least (h : Within m e x) (hm : 2 ^ 52 ≤ m) (hx : x < 2 ^ 52 * 2 ^ e) :
    m = 2 ^ 52 := by
  by_contra hne
  have hgt : (2 : ℚ) ^ 52 + 1 ≤ m := by exact_mod_cast Nat.lt_of_le_of_ne hm (Ne.symm hne)
  have hpow : (0 : ℚ) < 2 ^ e := by positivity
  have := lt_of_mul_lt_mul_right (h.half_le.trans_lt hx) hpow.le
  linarith

/-- At an exponent a fraction gets the mantissa that it is no further than a half from. -/
theorem roundDiv_scale (hden : 0 < den) (hlow : ((m : ℚ) - 1 / 2) * 2 ^ e ≤ num / den)
    (hhigh : (num : ℚ) / den ≤ (m + 1 / 2) * 2 ^ e)
    (htie : m % 2 = 1 →
      ((m : ℚ) - 1 / 2) * 2 ^ e < num / den ∧ (num : ℚ) / den < (m + 1 / 2) * 2 ^ e) :
    roundDiv (scale 2 num den (-e)).1 (scale 2 num den (-e)).2 = m := by
  have hpow : (0 : ℚ) < 2 ^ e := by positivity
  obtain ⟨hden', hratio⟩ := scale_neg_ratio two_pos hden num e
  rw [Nat.cast_ofNat] at hratio
  refine roundDiv_eq hden' ?_ ?_ fun hodd => ?_
  · rwa [hratio, le_div_iff₀ hpow]
  · rwa [hratio, div_le_iff₀ hpow]
  · rw [hratio, lt_div_iff₀ hpow, div_lt_iff₀ hpow]
    exact htie hodd

/-- **A fraction is rounded to the number in whose interval it lies.** -/
theorem ofFraction_of_within (negative : Bool) (hnum : 0 < num) (hden : 0 < den)
    (hc : Canonical (.finite negative m e)) (h : Within m e ((num : ℚ) / den)) :
    ofFraction negative num den = .finite negative m e := by
  obtain ⟨hm, hleast, hgreatest, hnormal⟩ := hc
  by_cases hlow : (2 : ℚ) ^ 52 * 2 ^ e ≤ (num : ℚ) / den ∨ e = leastExponent
  · -- the exponent is that of the interval
    have hhigh : (num : ℚ) / den < 2 ^ 53 * 2 ^ e := by
      have hm₁ : (m : ℚ) + 1 ≤ 2 ^ 53 := by exact_mod_cast hm
      refine h.high.trans_lt ?_
      gcongr
      linarith
    rw [ofFraction_eq negative num den (max_binade_eq hnum hden hleast hlow hhigh)
      (roundDiv_scale hden h.half_le h.high h.strict), if_neg (by omega), if_neg (by omega)]
  · -- below the least mantissa: the exponent is one less, and the mantissa is rounded up
    obtain ⟨hlow, hne⟩ := not_or.mp hlow
    rw [not_le] at hlow
    obtain rfl := h.eq_least (hnormal.resolve_right hne) hlow
    have hhalf : (2 : ℚ) ^ e = 2 * 2 ^ (e - 1) := by
      rw [zpow_sub_one₀ two_ne_zero]
      field_simp
    have hpow : (0 : ℚ) < 2 ^ (e - 1) := by positivity
    have hnear := h.low
    rw [if_pos ⟨rfl, by omega⟩, hhalf] at hnear
    rw [hhalf] at hlow
    push_cast at hnear
    have he : max (binade num den) leastExponent = e - 1 :=
      max_binade_eq hnum hden (by omega) (Or.inl (by linarith)) (by linarith)
    have hm' : roundDiv (scale 2 num den (-(e - 1))).1 (scale 2 num den (-(e - 1))).2 = 2 ^ 53 :=
      roundDiv_scale hden (by push_cast; linarith) (by push_cast; linarith) (by omega)
    rw [ofFraction_eq negative num den he hm', if_pos rfl, if_neg (by omega), Int.sub_add_cancel]

/-- What a positive fraction is rounded to is canonical. -/
theorem canonical_ofFraction (negative : Bool) (hnum : 0 < num) (hden : 0 < den) :
    Canonical (ofFraction negative num den) := by
  obtain ⟨hlow, hhigh⟩ := binade_spec hnum hden
  generalize he : max (binade num den) leastExponent = e
  have hpow : (0 : ℚ) < 2 ^ e := by positivity
  obtain ⟨hden', hratio⟩ := scale_neg_ratio two_pos hden num e
  rw [Nat.cast_ofNat] at hratio
  have hden₀ : (0 : ℚ) < (scale 2 num den (-e)).2 := by exact_mod_cast hden'
  have hless : (scale 2 num den (-e)).1 / (scale 2 num den (-e)).2 < 2 ^ 53 := by
    rw [Nat.div_lt_iff_lt_mul hden']
    have hle : (2 : ℚ) ^ binade num den ≤ 2 ^ e :=
      zpow_le_zpow_right₀ one_le_two (by omega)
    have hlt : (num : ℚ) / den / 2 ^ e < 2 ^ 53 := by
      rw [div_lt_iff₀ hpow]
      linarith
    rw [← hratio, div_lt_iff₀ hden₀] at hlt
    exact_mod_cast hlt
  have hmore : e = leastExponent ∨
      2 ^ 52 ≤ (scale 2 num den (-e)).1 / (scale 2 num den (-e)).2 := by
    by_cases hb : binade num den = e
    · right
      rw [Nat.le_div_iff_mul_le hden']
      rw [hb] at hlow
      rw [← le_div_iff₀ hpow, ← hratio, le_div_iff₀ hden₀] at hlow
      exact_mod_cast hlow
    · left
      omega
  generalize hm : roundDiv (scale 2 num den (-e)).1 (scale 2 num den (-e)).2 = m
  have hcases := roundDiv_cases (scale 2 num den (-e)).1 (scale 2 num den (-e)).2
  rw [hm] at hcases
  rw [ofFraction_eq negative num den he hm]
  have hleast : leastExponent ≤ e := by omega
  split
  · split
    · trivial
    · exact ⟨by omega, by omega, by omega, Or.inl (le_refl _)⟩
  · split
    · trivial
    · exact ⟨by omega, hleast, by omega, by omega⟩

/-- What a decimal is read as is canonical. -/
theorem canonical_ofDecimal (negative : Bool) (digits : Nat) (e : Int) :
    Canonical (ofDecimal negative digits e) := by
  have hzero : Canonical (.finite negative 0 leastExponent) :=
    ⟨by omega, le_refl _, by decide, Or.inr rfl⟩
  unfold ofDecimal
  split
  · exact hzero
  · next hdigits =>
    split
    · trivial
    · split
      · exact hzero
      · have hnum := Nat.pos_of_ne_zero hdigits
        exact canonical_ofFraction negative (scale_num_pos (by omega) hnum e)
          (scale_den_pos (by omega) Nat.one_pos e)

end

end ValidatorKeys.Binary64
