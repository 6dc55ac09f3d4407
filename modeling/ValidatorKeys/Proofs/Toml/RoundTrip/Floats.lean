import ValidatorKeys.Proofs.Decimal.Shortest
import ValidatorKeys.Proofs.Toml.RoundTrip.Numbers

/-!
# Written floating point numbers are read back

A number is written by its shortest digits, in positional notation.  Where the point stands does not
change what the digits mean, so what is read lies in the interval of the number again.
-/

namespace ValidatorKeys.Toml

/-! ## Positional notation -/

/-- The digits in front of and behind the point of a positive number. -/
structure IsPositional (text : List Char) (d : Nat) (k : Int) (whole fraction : List Char) :
    Prop where
  spells : text = whole ++ '.' :: fraction
  whole_digits : whole ≠ [] ∧ ∀ c ∈ whole, c.isDigit = true
  fraction_digits : fraction ≠ [] ∧ ∀ c ∈ fraction, c.isDigit = true
  no_zero : ∀ t, whole = '0' :: t → t = []
  value : (digitsValue (whole ++ fraction) : ℚ) * 10 ^ (-(fraction.length : Int)) = d * 10 ^ k

theorem toDigits_ne_zero {d : Nat} (hd : 0 < d) (t : List Char) : Nat.toDigits 10 d ≠ '0' :: t := by
  intro h
  obtain rfl := toDigits_zero h
  have := digitsValue_toDigits d
  rw [h] at this
  have hzero : d = 0 := this.symm
  omega

theorem isDigit_replicate (n : Nat) : ∀ c ∈ List.replicate n '0', c.isDigit = true := by
  intro c hc
  rw [List.eq_of_mem_replicate hc]
  decide

/-- A whole number is written with its zeros, and with one zero of fraction. -/
theorem isPositional_whole {d : Nat} (hd : 0 < d) (n : Nat) :
    IsPositional (Binary64.positional d n).toList d n
      (Nat.toDigits 10 d ++ List.replicate n '0') ['0'] := by
  refine ⟨?_, ⟨?_, fun c hc => ?_⟩, ⟨by simp, by simp⟩, fun t ht => ?_, ?_⟩
  · simp [Binary64.positional]
  · simp [Nat.toDigits_ne_nil]
  · rcases List.mem_append.mp hc with hc | hc
    · exact isDigit_toDigits d c hc
    · exact isDigit_replicate n c hc
  · obtain ⟨c, ds, hds⟩ := List.exists_cons_of_ne_nil (Nat.toDigits_ne_nil (n := d) (b := 10))
    rw [hds, List.cons_append] at ht
    rw [List.head_eq_of_cons_eq ht] at hds
    exact absurd hds (toDigits_ne_zero hd ds)
  · have hvalue : digitsValue (Nat.toDigits 10 d ++ List.replicate n '0' ++ ['0']) =
        d * 10 ^ (n + 1) := by
      rw [List.append_assoc, ← List.replicate_succ', digitsValue_append_zeros,
        digitsValue_toDigits]
    rw [hvalue, List.length_singleton]
    push_cast
    rw [zpow_neg_one, zpow_natCast, pow_succ]
    field_simp

/-- The digits of a number with zeros in front, so that one stands in front of `n` places. -/
def placed (d n : Nat) : List Char :=
  List.replicate (n + 1 - (Nat.toDigits 10 d).length) '0' ++ Nat.toDigits 10 d

theorem isDigit_placed (d n : Nat) : ∀ c ∈ placed d n, c.isDigit = true := by
  intro c hc
  rcases List.mem_append.mp hc with hc | hc
  · exact isDigit_replicate _ c hc
  · exact isDigit_toDigits d c hc

theorem length_placed (d n : Nat) :
    (placed d n).length = max (n + 1) (Nat.toDigits 10 d).length := by
  rw [placed, List.length_append, List.length_replicate]
  omega

theorem digitsValue_placed (d n : Nat) : digitsValue (placed d n) = d := by
  rw [placed, digitsValue_zeros, digitsValue_toDigits]

/-- A zero stands in front only where it is the one digit in front of the places. -/
theorem length_placed_of_zero {d n : Nat} (hd : 0 < d) {t : List Char}
    (h : placed d n = '0' :: t) : (placed d n).length = n + 1 := by
  rw [length_placed]
  by_contra hlong
  rw [placed, Nat.sub_eq_zero_of_le (by omega), List.replicate_zero, List.nil_append] at h
  exact toDigits_ne_zero hd t h

/-- A number with places behind the point is written with zeros in front of its digits. -/
theorem isPositional_places {d n : Nat} (hd : 0 < d) (hn : 0 < n) :
    IsPositional (Binary64.positional d (-(n : Int))).toList d (-(n : Int))
      ((placed d n).take ((placed d n).length - n))
      ((placed d n).drop ((placed d n).length - n)) := by
  have hlen := length_placed d n
  have hfraction : ((placed d n).drop ((placed d n).length - n)).length = n := by
    rw [List.length_drop]
    omega
  have hspells : (Binary64.positional d (-(n : Int))).toList =
      (placed d n).take ((placed d n).length - n) ++
        '.' :: (placed d n).drop ((placed d n).length - n) := by
    rw [Binary64.positional]
    simp only [if_neg (by omega : ¬0 ≤ -(n : Int)), neg_neg, Int.toNat_natCast]
    simp [placed]
  refine ⟨hspells, ⟨?_, fun c hc => isDigit_placed d n c (List.mem_of_mem_take hc)⟩,
    ⟨?_, fun c hc => isDigit_placed d n c (List.mem_of_mem_drop hc)⟩, fun t ht => ?_, ?_⟩
  · intro h
    have := congrArg List.length h
    rw [List.length_take, List.length_nil] at this
    omega
  · intro h
    rw [h, List.length_nil] at hfraction
    omega
  · have hzero : placed d n = '0' :: (t ++ (placed d n).drop ((placed d n).length - n)) := by
      rw [← List.cons_append, ← ht, List.take_append_drop]
    have hone := length_placed_of_zero hd hzero
    have := congrArg List.length ht
    rw [List.length_take, List.length_cons] at this
    exact List.eq_nil_of_length_eq_zero (by omega)
  · rw [List.take_append_drop, digitsValue_placed, hfraction]

theorem exists_isPositional {d : Nat} (hd : 0 < d) (k : Int) : ∃ whole fraction,
    IsPositional (Binary64.positional d k).toList d k whole fraction := by
  rcases Int.lt_or_le k 0 with hk | hk
  · obtain ⟨n, rfl⟩ := Int.exists_eq_neg_ofNat (Int.le_of_lt hk)
    exact ⟨_, _, isPositional_places hd (by omega)⟩
  · obtain ⟨n, rfl⟩ := Int.eq_ofNat_of_zero_le hk
    exact ⟨_, _, isPositional_whole hd n⟩

/-! ## Reading -/

/-- A number with a point is read to what is written behind it. -/
theorem readDecimal_point (negative : Bool) {whole fraction r : List Char}
    (hwhole : whole ≠ [] ∧ ∀ c ∈ whole, c.isDigit = true)
    (hfraction : fraction ≠ [] ∧ ∀ c ∈ fraction, c.isDigit = true)
    (hzero : ∀ t, whole = '0' :: t → t = []) (hr : Follows r) :
    readDecimal negative (whole ++ '.' :: (fraction ++ r)) =
      (float? negative whole fraction 0).map fun v => (v, r) := by
  have hpoint : StopsAt (fun c => c.isDigit || c = '_') ('.' :: (fraction ++ r)) := by
    intro c t heq
    cases heq
    decide
  have hexponent : readOptionalExponent r = some (0, r) := by
    cases hr with
    | nil => rfl
    | newline t => rfl
    | comma t => rfl
    | bracket t => rfl
    | brace t => rfl
  simp only [readDecimal, readWhole_append hwhole.1 hwhole.2 hzero hpoint,
    readRun_append hfraction.1 hfraction.2 (hr.stopsAt (by decide)), hexponent,
    Option.bind_eq_bind, Option.bind_some]
  cases float? negative whole fraction 0 with
  | none => rfl
  | some v => rfl

/-- A number with a point, and with its sign. -/
theorem readPlain_point (negative : Bool) {whole fraction r : List Char}
    (hwhole : whole ≠ [] ∧ ∀ c ∈ whole, c.isDigit = true)
    (hfraction : fraction ≠ [] ∧ ∀ c ∈ fraction, c.isDigit = true)
    (hzero : ∀ t, whole = '0' :: t → t = []) (hr : Follows r) :
    readPlain ((if negative then ['-'] else []) ++ (whole ++ '.' :: (fraction ++ r))) =
      (float? negative whole fraction 0).map fun v => (v, r) := by
  rw [← readDecimal_point negative hwhole hfraction hzero hr]
  cases negative with
  | true =>
    change readPlain ('-' :: (whole ++ '.' :: (fraction ++ r))) = _
    rw [readPlain_minus, readSigned_digits true hwhole.1 hwhole.2]
  | false =>
    change readPlain (whole ++ '.' :: (fraction ++ r)) = _
    refine readPlain_digits hwhole.1 hwhole.2 hzero fun c t heq => ?_
    cases heq
    decide

theorem float?_eq_some {negative negative' : Bool} {whole fraction : List Char} {m : Nat} {e : Int}
    (h : Binary64.ofDecimal negative (digitsValue (whole ++ fraction)) (-(fraction.length : Int)) =
      .finite negative' m e) :
    float? negative whole fraction 0 = some (.float (.finite negative' m e)) := by
  unfold float?
  simp only [Int.zero_sub, h]
  rfl

/-- **A written floating point number is read back.** -/
theorem readPlain_float {f : Binary64} (hf : f.Canonical) {r : List Char} (hr : Follows r) :
    readPlain (f.text.toList ++ r) = some (.float f, r) := by
  cases f with
  | nan => exact readPlain_of_not_digit (by decide) (by decide) (by decide) _
  | infinite negative =>
    cases negative with
    | true => exact readPlain_minus _
    | false => exact readPlain_of_not_digit (by decide) (by decide) (by decide) _
  | finite negative m e =>
    have hsign : (Binary64.finite negative m e).text.toList = (if negative then ['-'] else []) ++
        (if m = 0 then "0.0"
          else Binary64.positional (Binary64.shortest m e).1 (Binary64.shortest m e).2).toList := by
      rw [Binary64.text, String.toList_append]
      cases negative <;> rfl
    rw [hsign]
    by_cases hm : m = 0
    · subst hm
      obtain ⟨-, hleast, -, hnormal⟩ := hf
      obtain rfl : e = Binary64.leastExponent := by omega
      rw [if_pos rfl, List.append_assoc]
      have hread : readPlain ((if negative then ['-'] else []) ++ (['0'] ++ '.' :: (['0'] ++ r))) =
          (float? negative ['0'] ['0'] 0).map fun v => (v, r) :=
        readPlain_point negative ⟨by simp, by simp⟩ ⟨by simp, by simp⟩ (by simp) hr
      refine hread.trans ?_
      rw [float?_eq_some rfl]
      rfl
    · have hpos := Nat.pos_of_ne_zero hm
      have hwithin := Binary64.within_shortest (e := e) hpos hf.1
      obtain ⟨whole, fraction, htext⟩ :=
        exists_isPositional (hwithin.digits_pos hpos) (Binary64.shortest m e).2
      have hread : Binary64.ofDecimal negative (digitsValue (whole ++ fraction))
          (-(fraction.length : Int)) = .finite negative m e := by
        refine Binary64.ofDecimal_of_within hpos hf ?_
        rw [htext.value]
        exact hwithin
      rw [if_neg hm, htext.spells, List.append_assoc, List.append_assoc, List.cons_append,
        readPlain_point negative htext.whole_digits htext.fraction_digits htext.no_zero hr,
        float?_eq_some hread]
      rfl

end ValidatorKeys.Toml
