import ValidatorKeys.Proofs.Decimal.Rounding

/-!
# The shortest digits of a floating point number

The digits that are written for a number lie in the interval that is rounded to it, so reading them
gives the number again.

    ofDecimal (shortest m e) = m * 2 ^ e
-/

namespace ValidatorKeys.Binary64

/-! ## Decimal sizes -/

theorem lt_pow_digitCount (n : Nat) : n < 10 ^ digitCount n :=
  (Nat.length_toDigits_le_iff (by omega) (List.length_pos_iff.mpr Nat.toDigits_ne_nil)).mp
    (le_refl _)

theorem pow_digitCount_le {n : Nat} (hn : 0 < n) : 10 ^ (digitCount n - 1) ≤ n := by
  have hpos : 0 < digitCount n := List.length_pos_iff.mpr Nat.toDigits_ne_nil
  by_cases hone : digitCount n = 1
  · rw [hone]
    exact hn
  · by_contra hlt
    have := (Nat.length_toDigits_le_iff (n := n) (by omega : 1 < 10) (k := digitCount n - 1)
      (by omega)).mpr (by omega)
    change digitCount n ≤ digitCount n - 1 at this
    omega

/-- The size of a number with digits in front of a power of ten. -/
theorem digitCount_bounds {d : Nat} (hd : 0 < d) (k : Int) :
    (10 : ℚ) ^ ((digitCount d : Int) + k - 1) ≤ d * 10 ^ k ∧
      (d : ℚ) * 10 ^ k < 10 ^ ((digitCount d : Int) + k) := by
  have hpos : 0 < digitCount d := List.length_pos_iff.mpr Nat.toDigits_ne_nil
  have hlow : (10 : ℚ) ^ (digitCount d - 1) ≤ d := by exact_mod_cast pow_digitCount_le hd
  have hhigh : (d : ℚ) < 10 ^ digitCount d := by exact_mod_cast lt_pow_digitCount d
  have hten : (10 : ℚ) ≠ 0 := by norm_num
  have hk : (0 : ℚ) < 10 ^ k := by positivity
  constructor
  · have hexp : (digitCount d : Int) + k - 1 = ((digitCount d - 1 : Nat) : Int) + k := by omega
    rw [hexp, zpow_add₀ hten, zpow_natCast]
    gcongr
  · rw [zpow_add₀ hten, zpow_natCast]
    gcongr

theorem decade_le {num den : Nat} (hnum : 0 < num) (hden : 0 < den) :
    (10 : ℚ) ^ decade num den ≤ (num : ℚ) / den := by
  have hden₀ : (0 : ℚ) < den := by exact_mod_cast hden
  have hten : (10 : ℚ) ≠ 0 := by norm_num
  unfold decade
  simp only
  generalize hp : (digitCount num : Int) - (digitCount den : Int) = p
  split
  · next h =>
    obtain ⟨hpos, hratio⟩ := scale_neg_ratio (show 0 < 10 by omega) hden num p
    replace hpos : (0 : ℚ) < (scale 10 num den (-p)).2 := by exact_mod_cast hpos
    rw [Nat.cast_ofNat] at hratio
    have hle : (1 : ℚ) ≤ (scale 10 num den (-p)).1 / (scale 10 num den (-p)).2 := by
      rw [le_div_iff₀ hpos, one_mul]
      exact_mod_cast h
    have hpow : (0 : ℚ) < 10 ^ p := by positivity
    rwa [hratio, le_div_iff₀ hpow, one_mul] at hle
  · have hnum₁ : (10 : ℚ) ^ ((digitCount num : Int) - 1) ≤ num := by
      simpa using (digitCount_bounds hnum 0).1
    have hden₁ : (den : ℚ) < 10 ^ (digitCount den : Int) := by
      simpa using (digitCount_bounds hden 0).2
    rw [le_div_iff₀ hden₀]
    calc (10 : ℚ) ^ (p - 1) * den ≤ 10 ^ (p - 1) * 10 ^ (digitCount den : Int) := by gcongr
      _ = 10 ^ ((digitCount num : Int) - 1) := by
        rw [← zpow_add₀ hten]
        congr 1
        omega
      _ ≤ num := hnum₁

/-! ## Grids -/

/-- Whether a decimal lies in the interval, in the rationals. -/
theorem isInside_iff {low high den : Nat} (hden : 0 < den) (closed : Bool) (k : Int) (c : Nat) :
    isInside low high den closed k c = true ↔
      (if closed then (low : ℚ) / den ≤ c * 10 ^ k ∧ (c : ℚ) * 10 ^ k ≤ high / den
      else (low : ℚ) / den < c * 10 ^ k ∧ (c : ℚ) * 10 ^ k < high / den) := by
  have hden₀ : (0 : ℚ) < den := by exact_mod_cast hden
  have hratio : ((scale 10 c 1 k).1 : ℚ) / (scale 10 c 1 k).2 = c * 10 ^ k :=
    scale_one_ratio (by omega) c k
  have hpos : (0 : ℚ) < (scale 10 c 1 k).2 := by
    exact_mod_cast scale_den_pos (by omega) Nat.one_pos k
  rw [← hratio, isInside]
  cases closed with
  | true =>
    simp only [if_true, Bool.and_eq_true, decide_eq_true_eq]
    rw [div_le_div_iff₀ hden₀ hpos, div_le_div_iff₀ hpos hden₀]
    norm_cast
  | false =>
    simp only [Bool.false_eq_true, if_false, Bool.and_eq_true, decide_eq_true_eq]
    rw [div_lt_div_iff₀ hden₀ hpos, div_lt_div_iff₀ hpos hden₀]
    norm_cast

section

variable {num low high den : Nat} {closed : Bool} {p : Int}

/-- The point of a grid next below the number. -/
def gridBelow (num den : Nat) (k : Int) : Nat :=
  (scale 10 num den (-k)).1 / (scale 10 num den (-k)).2

/-- What the search finds lies in the interval, if one of the grids that it tries has its point
below the number there. -/
theorem isInside_firstGrid {fuel count : Nat}
    (h : ∃ j, count ≤ j ∧ j < count + fuel ∧
      isInside low high den closed (p - j + 1) (gridBelow num den (p - j + 1)) = true) :
    isInside low high den closed (firstGrid num low high den closed p fuel count).2
      (firstGrid num low high den closed p fuel count).1 = true := by
  induction fuel generalizing count with
  | zero =>
    obtain ⟨j, h₁, h₂, -⟩ := h
    omega
  | succ fuel ih =>
    rw [firstGrid]
    split
    · next hdown hup =>
      split
      · exact hdown
      · exact hup
    · next hdown _ => exact hdown
    · next _ hup => exact hup
    · next hdown _ =>
      refine ih ?_
      obtain ⟨j, h₁, h₂, hj⟩ := h
      refine ⟨j, ?_, by omega, hj⟩
      by_contra hlt
      obtain rfl : j = count := by omega
      rw [gridBelow] at hj
      rw [hj] at hdown
      cases hdown

/-- A fine enough grid has a point in every interval around the number. -/
theorem isInside_gridBelow {k : Int} (hden : 0 < den)
    (hlow : (low : ℚ) / den + 10 ^ k ≤ num / den) (hhigh : num < high) :
    isInside low high den closed k (gridBelow num den k) = true := by
  have hden₀ : (0 : ℚ) < den := by exact_mod_cast hden
  have hk : (0 : ℚ) < 10 ^ k := by positivity
  obtain ⟨hpos, hratio⟩ := scale_neg_ratio (show 0 < 10 by omega) hden num k
  have hpos₀ : (0 : ℚ) < (scale 10 num den (-k)).2 := by exact_mod_cast hpos
  rw [Nat.cast_ofNat] at hratio
  have hfloor : (gridBelow num den k : ℚ) * 10 ^ k ≤ num / den := by
    rw [← le_div_iff₀ hk, ← hratio, le_div_iff₀ hpos₀]
    exact_mod_cast Nat.div_mul_le_self _ _
  have hceil : (num : ℚ) / den < (gridBelow num den k + 1) * 10 ^ k := by
    rw [← div_lt_iff₀ hk, ← hratio, div_lt_iff₀ hpos₀]
    exact_mod_cast (Nat.div_lt_iff_lt_mul hpos).mp (Nat.lt_succ_self (gridBelow num den k))
  have hnum : (num : ℚ) / den < high / den := by
    gcongr
  have h₁ : (low : ℚ) / den < gridBelow num den k * 10 ^ k := by
    rw [add_mul, one_mul] at hceil
    linarith
  have h₂ := hfloor.trans_lt hnum
  rw [isInside_iff hden]
  split
  · exact ⟨h₁.le, h₂.le⟩
  · exact ⟨h₁, h₂⟩

/-- Eighteen digits are enough for an interval that reaches a seventeenth decimal place down. -/
theorem isInside_firstGrid_decade (hnum : 0 < num) (hden : 0 < den)
    (hlow : (low : ℚ) / den + num / den / 10 ^ 17 ≤ num / den) (hhigh : num < high) :
    isInside low high den closed (firstGrid num low high den closed (decade num den) 20 1).2
      (firstGrid num low high den closed (decade num den) 20 1).1 = true := by
  refine isInside_firstGrid ⟨18, by omega, by omega, isInside_gridBelow hden ?_ hhigh⟩
  have hexp : decade num den - (18 : Nat) + 1 = decade num den - 17 := by
    push_cast
    ring
  have hfine : (10 : ℚ) ^ (decade num den - 17) ≤ num / den / 10 ^ 17 := by
    rw [zpow_sub₀ (by norm_num)]
    have := decade_le hnum hden
    norm_cast at this ⊢
    gcongr
  rw [hexp]
  linarith

end

/-! ## Digits -/

theorem dropZeros_value (fuel d : Nat) (k : Int) :
    ((dropZeros fuel d k).1 : ℚ) * 10 ^ (dropZeros fuel d k).2 = d * 10 ^ k := by
  induction fuel generalizing d k with
  | zero => rfl
  | succ fuel ih =>
    rw [dropZeros]
    split
    · next h =>
      have hd : (d : ℚ) = (d / 10 : Nat) * 10 := by
        exact_mod_cast (Nat.div_mul_cancel (Nat.dvd_of_mod_eq_zero h)).symm
      rw [ih, hd, zpow_add_one₀ (by norm_num)]
      ring
    · rfl

/-- Quarters of the last place, over one denominator. -/
theorem exists_scale_quarter (e : Int) : ∃ den, 0 < den ∧ ∀ n : Nat,
    (scale 2 n 1 (e - 2)).2 = den ∧ ((scale 2 n 1 (e - 2)).1 : ℚ) / den = n * (2 ^ e / 4) := by
  have hden : ∀ n, (scale 2 n 1 (e - 2)).2 = (scale 2 1 1 (e - 2)).2 := by
    intro n
    unfold scale
    split <;> rfl
  refine ⟨(scale 2 1 1 (e - 2)).2, scale_den_pos (by omega) Nat.one_pos _, fun n => ⟨hden n, ?_⟩⟩
  have hquarter : (2 : ℚ) ^ (e - 2) = 2 ^ e / 4 := by
    rw [zpow_sub₀ two_ne_zero]
    norm_num
  rw [← hden n, ← hquarter]
  exact scale_one_ratio two_pos n (e - 2)

/-- How many quarters of the last place the interval of a number reaches down. -/
def reach (m : Nat) (e : Int) : Nat := if m = 2 ^ 52 ∧ leastExponent < e then 1 else 2

theorem reach_cases (m : Nat) (e : Int) : reach m e = 1 ∨ reach m e = 2 := by
  unfold reach
  split
  · exact Or.inl rfl
  · exact Or.inr rfl

theorem reach_of_odd {m : Nat} (h : m % 2 = 1) (e : Int) : reach m e = 2 := by
  rw [reach, if_neg (by omega)]

/-- The interval of a number, in quarters of its last place. -/
theorem Within.of_quarters {m : Nat} {e : Int} {x : ℚ}
    (h : (4 * (m : ℚ) - reach m e) * (2 ^ e / 4) ≤ x ∧ x ≤ (4 * m + 2) * (2 ^ e / 4))
    (hodd : m % 2 = 1 →
      (4 * (m : ℚ) - reach m e) * (2 ^ e / 4) < x ∧ x < (4 * m + 2) * (2 ^ e / 4)) :
    Within m e x := by
  refine ⟨?_, by linarith, fun hm => ?_⟩
  · have hlow := h.1
    rw [reach] at hlow
    split
    · next hleast =>
      rw [if_pos hleast] at hlow
      push_cast at hlow
      linarith
    · next hleast =>
      rw [if_neg hleast] at hlow
      push_cast at hlow
      linarith
  · have hstrict := hodd hm
    rw [reach_of_odd hm] at hstrict
    push_cast at hstrict
    exact ⟨by linarith, by linarith⟩

/-- **The shortest digits lie in the interval that is rounded to the number.** -/
theorem within_shortest {m : Nat} {e : Int} (hm : 0 < m) (hm₁ : m < 2 ^ 53) :
    Within m e ((shortest m e).1 * 10 ^ (shortest m e).2) := by
  have hpow : (0 : ℚ) < 2 ^ e := by positivity
  have hm₂ : (m : ℚ) < 2 ^ 53 := by exact_mod_cast hm₁
  obtain ⟨den, hden, hscale⟩ := exists_scale_quarter e
  have hden₀ : (0 : ℚ) < den := by exact_mod_cast hden
  have hreach : (if m = Nat.pow 2 52 ∧ leastExponent < e then 1 else 2) = reach m e := rfl
  have hreach₁ : (1 : ℚ) ≤ reach m e := by
    rcases reach_cases m e with h | h
    · rw [h, Nat.cast_one]
    · rw [h]
      norm_num
  have hvalue := (hscale (4 * m)).2
  have hlow := (hscale (4 * m - reach m e)).2
  have hhigh := (hscale (4 * m + 2)).2
  rw [Nat.cast_sub (by have := reach_cases m e; omega)] at hlow
  push_cast at hvalue hlow hhigh
  rw [shortest]
  simp only [hreach, dropZeros_value, (hscale _).1]
  generalize (scale 2 (4 * m - reach m e) 1 (e - 2)).1 = low at *
  generalize (scale 2 (4 * m + 2) 1 (e - 2)).1 = high at *
  generalize (scale 2 (4 * m) 1 (e - 2)).1 = num at *
  have hnum : 0 < num := by
    have hm₀ : (0 : ℚ) < m := by exact_mod_cast hm
    have : (0 : ℚ) < num / den := by
      rw [hvalue]
      positivity
    exact_mod_cast (div_pos_iff_of_pos_right hden₀).mp this
  have hnum' : num < high := by
    have : (num : ℚ) / den < high / den := by
      rw [hvalue, hhigh]
      gcongr
      linarith
    exact_mod_cast (div_lt_div_iff_of_pos_right hden₀).mp this
  have hfar : (low : ℚ) / den + num / den / 10 ^ 17 ≤ num / den := by
    rw [hlow, hvalue]
    nlinarith
  have hinside : isInside low high den (m % 2 == 0)
      (firstGrid num low high den (m % 2 == 0) (decade num den) 20 1).2
      (firstGrid num low high den (m % 2 == 0) (decade num den) 20 1).1 = true :=
    isInside_firstGrid_decade hnum hden hfar hnum'
  generalize firstGrid num low high den (m % 2 == 0) (decade num den) 20 1 = d at *
  rw [isInside_iff hden, hlow, hhigh] at hinside
  refine .of_quarters ?_ fun hodd => ?_
  · split at hinside
    · exact hinside
    · exact ⟨hinside.1.le, hinside.2.le⟩
  · rwa [if_neg (by simp [hodd])] at hinside

theorem Within.pos {m : Nat} {e : Int} {x : ℚ} (h : Within m e x) (hm : 0 < m) : 0 < x := by
  have hm₀ : (1 : ℚ) ≤ m := by exact_mod_cast hm
  have hpow : (0 : ℚ) < 2 ^ e := by positivity
  refine lt_of_lt_of_le (mul_pos ?_ hpow) h.low
  split <;> linarith

theorem Within.digits_pos {m d : Nat} {e k : Int} (h : Within m e (d * 10 ^ k)) (hm : 0 < m) :
    0 < d := by
  refine Nat.pos_of_ne_zero ?_
  rintro rfl
  have := h.pos hm
  simp at this

/-! ## Reading the digits again -/

theorem greatest_lt : (2 : ℚ) ^ 53 * 2 ^ (971 : Int) < 10 ^ (309 : Int) := by
  have h : 2 ^ 53 * 2 ^ 971 < 10 ^ 309 := by decide +kernel
  rw [zpow_ofNat, zpow_ofNat]
  exact_mod_cast h

theorem lt_least : (10 : ℚ) ^ (-324 : Int) < 1 / 2 * 2 ^ (-1074 : Int) := by
  have h : 2 * 2 ^ 1074 < 10 ^ 324 := by decide +kernel
  have h' : (2 : ℚ) * 2 ^ 1074 < 10 ^ 324 := by exact_mod_cast h
  rw [zpow_neg, zpow_neg, zpow_ofNat, zpow_ofNat, one_div, ← mul_inv]
  exact inv_strictAnti₀ (by positivity) h'

/-- **A decimal in the interval of a number is read as that number.** -/
theorem ofDecimal_of_within {negative : Bool} {m d : Nat} {e k : Int} (hm : 0 < m)
    (hc : Canonical (.finite negative m e)) (h : Within m e (d * 10 ^ k)) :
    ofDecimal negative d k = .finite negative m e := by
  obtain ⟨hm₁, hleast, hgreatest, -⟩ := id hc
  have hd : 0 < d := h.digits_pos hm
  obtain ⟨hsize₁, hsize₂⟩ := digitCount_bounds hd k
  have hm₀ : (1 : ℚ) ≤ m := by exact_mod_cast hm
  have hm₂ : (m : ℚ) + 1 ≤ 2 ^ 53 := by exact_mod_cast hm₁
  have hpow : (0 : ℚ) < 2 ^ e := by positivity
  have hten : (1 : ℚ) < 10 := by norm_num
  have hsmall : ¬310 < (digitCount d : Int) + k := by
    have hlt : (d : ℚ) * 10 ^ k < 10 ^ (309 : Int) := by
      calc (d : ℚ) * 10 ^ k ≤ (m + 1 / 2) * 2 ^ e := h.high
        _ ≤ 2 ^ 53 * 2 ^ e := by
          gcongr
          linarith
        _ ≤ 2 ^ 53 * 2 ^ (971 : Int) := by
          gcongr
          · norm_num
          · exact hgreatest
        _ < 10 ^ (309 : Int) := greatest_lt
    have := (zpow_lt_zpow_iff_right₀ hten).mp (hsize₁.trans_lt hlt)
    omega
  have hlarge : ¬(digitCount d : Int) + k < -330 := by
    have hlt : (10 : ℚ) ^ (-324 : Int) < d * 10 ^ k := by
      calc (10 : ℚ) ^ (-324 : Int) < 1 / 2 * 2 ^ (-1074 : Int) := lt_least
        _ ≤ 1 / 2 * 2 ^ e := by
          gcongr
          · norm_num
          · exact hleast
        _ ≤ (m - (if m = 2 ^ 52 ∧ leastExponent < e then 1 / 4 else 1 / 2)) * 2 ^ e := by
          gcongr
          split <;> linarith
        _ ≤ d * 10 ^ k := h.low
    have := (zpow_lt_zpow_iff_right₀ hten).mp (hlt.trans hsize₂)
    omega
  rw [ofDecimal, if_neg (by omega), if_neg hsmall, if_neg hlarge]
  have hratio : ((scale 10 d 1 k).1 : ℚ) / (scale 10 d 1 k).2 = d * 10 ^ k :=
    scale_one_ratio (by omega) d k
  exact ofFraction_of_within negative (scale_num_pos (by omega) hd k)
    (scale_den_pos (by omega) Nat.one_pos k) hc (hratio ▸ h)

end ValidatorKeys.Binary64
