import ValidatorKeys.Proofs.Toml.Framing.Values
import ValidatorKeys.Proofs.Toml.WellFormed

/-!
# Written numbers and dates are read back

Nothing that is written behind a value can be taken for a part of it: a line feed, a comma, the
bracket of an array or the brace of an inline table, which has a space in front.

    readNumber (text of n ++ r) = some (n, r)      readDateTime (text of d ++ r) = some (d, r)
-/

namespace ValidatorKeys.Toml

/-! ## Definitions -/

/-- What is written behind a value. -/
inductive Follows : List Char → Prop
  | nil : Follows []
  | newline (t : List Char) : Follows ('\n' :: t)
  | comma (t : List Char) : Follows (',' :: t)
  | bracket (t : List Char) : Follows (']' :: t)
  | brace (t : List Char) : Follows (' ' :: '\x7d' :: t)

/-- No character of a class stands in front of a text. -/
def StopsAt (p : Char → Bool) (r : List Char) : Prop := ∀ c t, r = c :: t → p c = false

theorem Follows.stopsAt {r : List Char} (h : Follows r) {p : Char → Bool}
    (hp : ['\n', ',', ']', ' '].all (fun c => !p c) = true) : StopsAt p r := by
  simp only [List.all_cons, List.all_nil, Bool.and_true, Bool.and_eq_true,
    Bool.not_eq_true'] at hp
  intro c t heq
  cases h with
  | nil => cases heq
  | newline => cases heq; exact hp.1
  | comma => cases heq; exact hp.2.1
  | bracket => cases heq; exact hp.2.2.1
  | brace => cases heq; exact hp.2.2.2

/-! ## Digits -/

theorem digitsValue_toDigits (n : Nat) : digitsValue (Nat.toDigits 10 n) = n :=
  Nat.ofDigitChars_toDigits (by omega) (by omega)

theorem isDigit_toDigits (n : Nat) : ∀ c ∈ Nat.toDigits 10 n, c.isDigit = true :=
  fun _ hc => Nat.isDigit_of_mem_toDigits (by omega) (by omega) hc

/-- The digits of a number do not start with a zero, unless they are a single one. -/
theorem toDigits_zero {n : Nat} {t : List Char} (h : Nat.toDigits 10 n = '0' :: t) : t = [] := by
  induction n using Nat.strongRecOn generalizing t with
  | _ n ih =>
    rw [Nat.toDigits_eq_if (by omega)] at h
    split at h
    · exact (List.cons.inj h).2.symm
    · next hn =>
      cases hd : Nat.toDigits 10 (n / 10) with
      | nil => exact absurd hd Nat.toDigits_ne_nil
      | cons c ds =>
        rw [hd] at h
        obtain rfl : c = '0' := (List.cons.inj h).1
        obtain rfl := ih (n / 10) (by omega) hd
        have := digitsValue_toDigits (n / 10)
        rw [hd] at this
        have hzero : n / 10 = 0 := this.symm
        omega

/-- Digits are read up to the end of their run. -/
theorem readMoreDigits_append {ds r : List Char} (hds : ∀ c ∈ ds, c.isDigit = true)
    (hr : StopsAt (fun c => c.isDigit || c = '_') r) :
    readMoreDigits Char.isDigit (ds ++ r) = some (ds, r) := by
  induction ds with
  | nil =>
    cases r with
    | nil => rfl
    | cons c t =>
      have hc := hr c t rfl
      rw [Bool.or_eq_false_iff, decide_eq_false_iff_not] at hc
      rw [List.nil_append, readMoreDigits]
      · simp [hc.1]
      · exact fun _ _ heq => absurd heq hc.2
      · exact fun heq => absurd heq hc.2
  | cons c ds ih =>
    have hc := hds c List.mem_cons_self
    have hne : c ≠ '_' := by
      rintro rfl
      cases hc
    rw [List.cons_append, readMoreDigits, if_pos hc,
      ih fun d hd => hds d (List.mem_cons_of_mem _ hd)]
    · rfl
    · exact fun _ _ heq => absurd heq hne
    · exact fun heq => absurd heq hne

theorem readRun_append {ds r : List Char} (hne : ds ≠ []) (hds : ∀ c ∈ ds, c.isDigit = true)
    (hr : StopsAt (fun c => c.isDigit || c = '_') r) :
    readRun Char.isDigit (ds ++ r) = some (ds, r) := by
  obtain ⟨c, ds, rfl⟩ := List.exists_cons_of_ne_nil hne
  rw [List.cons_append, readRun, if_pos (hds c List.mem_cons_self),
    readMoreDigits_append (fun d hd => hds d (List.mem_cons_of_mem _ hd)) hr]
  rfl

/-- Digits in front of the point, which start with a zero only when there is no other. -/
theorem readWhole_append {ds r : List Char} (hne : ds ≠ []) (hds : ∀ c ∈ ds, c.isDigit = true)
    (hzero : ∀ t, ds = '0' :: t → t = []) (hr : StopsAt (fun c => c.isDigit || c = '_') r) :
    readWhole (ds ++ r) = some (ds, r) := by
  unfold readWhole
  split
  · next t heq =>
    obtain ⟨c, ds, rfl⟩ := List.exists_cons_of_ne_nil hne
    obtain rfl : c = '0' := List.head_eq_of_cons_eq heq
    obtain rfl := hzero ds rfl
    cases heq
    rfl
  · exact readRun_append hne hds hr

/-! ## Whole numbers -/

/-- A run of digits is no date: no hyphen stands behind its fourth digit. -/
theorem startsDate_digits {ds r : List Char} (hds : ∀ c ∈ ds, c.isDigit = true)
    (hr : StopsAt (fun c => c.isDigit || c = '-') r) : startsDate (ds ++ r) = false := by
  have hdigit : ∀ c, c.isDigit = true → c ≠ '-' := by
    rintro _ hc rfl
    cases hc
  have hstop : ∀ c t, r = c :: t → c.isDigit = false ∧ c ≠ '-' := fun c t heq => by
    have := hr c t heq
    rwa [Bool.or_eq_false_iff, decide_eq_false_iff_not] at this
  match ds, hds with
  | [], _ =>
    cases r with
    | nil => rfl
    | cons c t => simp [startsDate, (hstop c t rfl).1]
  | [a], _ =>
    cases r with
    | nil => rfl
    | cons c t => simp [startsDate, (hstop c t rfl).1]
  | [a, b], _ =>
    cases r with
    | nil => rfl
    | cons c t => simp [startsDate, (hstop c t rfl).1]
  | [a, b, c], _ =>
    cases r with
    | nil => rfl
    | cons d t => simp [startsDate, (hstop d t rfl).1]
  | [a, b, c, d], _ =>
    cases r with
    | nil => simp [startsDate]
    | cons e t => simp [startsDate, (hstop e t rfl).2]
  | a :: b :: c :: d :: e :: ds, hds =>
    have he := hdigit e (hds e (by simp))
    simp [startsDate, he]

/-- A run of digits is no time: no colon stands behind its second digit. -/
theorem startsTime_digits {ds r : List Char} (hds : ∀ c ∈ ds, c.isDigit = true)
    (hr : StopsAt (fun c => c.isDigit || c = ':') r) : startsTime (ds ++ r) = false := by
  have hdigit : ∀ c, c.isDigit = true → c ≠ ':' := by
    rintro _ hc rfl
    cases hc
  have hstop : ∀ c t, r = c :: t → c.isDigit = false ∧ c ≠ ':' := fun c t heq => by
    have := hr c t heq
    rwa [Bool.or_eq_false_iff, decide_eq_false_iff_not] at this
  unfold startsTime
  split
  · next hour t hread =>
    unfold readDigits at hread
    dsimp only at hread
    split at hread
    · next hdigits =>
      cases hread
      match ds, hds with
      | [], _ =>
        cases r with
        | nil => simp at hdigits
        | cons c t => simp [(hstop c t rfl).1] at hdigits
      | [a], _ =>
        cases r with
        | nil => simp at hdigits
        | cons c t => simp [(hstop c t rfl).1] at hdigits
      | [a, b], _ =>
        cases r with
        | nil => simp
        | cons c t => simp [(hstop c t rfl).2]
      | a :: b :: c :: ds, hds => simp [hdigit c (hds c (by simp))]
    · cases hread
  · rfl

/-- A number in front of what is written behind it. -/
theorem readDecimal_integer (negative : Bool) (n : Nat) {r : List Char} (hr : Follows r) :
    readDecimal negative (Nat.toDigits 10 n ++ r) =
      (integer? negative n).map fun v => (v, r) := by
  rw [readDecimal, readWhole_append Nat.toDigits_ne_nil (isDigit_toDigits n)
    (fun _ => toDigits_zero) (hr.stopsAt (by decide))]
  change readDecimalRest negative (Nat.toDigits 10 n) r = _
  unfold readDecimalRest
  rw [digitsValue_toDigits]
  cases hr with
  | nil => cases integer? negative n <;> rfl
  | newline t => cases integer? negative n <;> rfl
  | comma t => cases integer? negative n <;> rfl
  | bracket t => cases integer? negative n <;> rfl
  | brace t => cases integer? negative n <;> rfl

/-- What starts with digits starts with nothing else. -/
theorem digits_append_ne {ds r t : List Char} {d : Char} (hne : ds ≠ [])
    (hds : ∀ c ∈ ds, c.isDigit = true) (hd : d.isDigit = false) : ds ++ r ≠ d :: t := by
  obtain ⟨c, ds, rfl⟩ := List.exists_cons_of_ne_nil hne
  intro heq
  obtain rfl : c = d := List.head_eq_of_cons_eq heq
  rw [hds c List.mem_cons_self] at hd
  cases hd

theorem readSigned_digits (negative : Bool) {ds r : List Char} (hne : ds ≠ [])
    (hds : ∀ c ∈ ds, c.isDigit = true) :
    readSigned negative (ds ++ r) = readDecimal negative (ds ++ r) := by
  unfold readSigned
  split
  · next heq => exact absurd heq (digits_append_ne hne hds rfl)
  · next heq => exact absurd heq (digits_append_ne hne hds rfl)
  · rfl

/-- A number that starts with digits has no sign, and is not in another base. -/
theorem readNumber_digits {ds r : List Char} (hne : ds ≠ []) (hds : ∀ c ∈ ds, c.isDigit = true)
    (hzero : ∀ t, ds = '0' :: t → t = []) (hr : StopsAt Char.isAlpha r) :
    readNumber (ds ++ r) = readDecimal false (ds ++ r) := by
  rw [← readSigned_digits false hne hds]
  have hbase : ∀ d t, ds ++ r = '0' :: d :: t → d.isAlpha = true → False := by
    intro d t heq hd
    obtain ⟨c, ds, rfl⟩ := List.exists_cons_of_ne_nil hne
    obtain rfl : c = '0' := List.head_eq_of_cons_eq heq
    obtain rfl := hzero ds rfl
    have := hr d t (List.tail_eq_of_cons_eq heq)
    rw [hd] at this
    cases this
  unfold readNumber
  split
  · next heq => exact absurd heq (digits_append_ne hne hds rfl)
  · next heq => exact absurd heq (digits_append_ne hne hds rfl)
  · next heq => exact absurd (hbase _ _ heq rfl) id
  · next heq => exact absurd (hbase _ _ heq rfl) id
  · next heq => exact absurd (hbase _ _ heq rfl) id
  · rfl

theorem readPlain_digits {ds r : List Char} (hne : ds ≠ []) (hds : ∀ c ∈ ds, c.isDigit = true)
    (hzero : ∀ t, ds = '0' :: t → t = [])
    (hr : StopsAt (fun c => c.isDigit || c.isAlpha || c = '-' || c = ':') r) :
    readPlain (ds ++ r) = readDecimal false (ds ++ r) := by
  have hstop : ∀ c t, r = c :: t →
      c.isDigit = false ∧ c.isAlpha = false ∧ c ≠ '-' ∧ c ≠ ':' := fun c t heq => by
    have := hr c t heq
    simpa only [Bool.or_eq_false_iff, decide_eq_false_iff_not, and_assoc, ne_eq] using this
  have hdate := startsDate_digits (r := r) hds fun c t heq => by
    simp [hstop c t heq]
  have htime := startsTime_digits (r := r) hds fun c t heq => by
    simp [hstop c t heq]
  rw [← readNumber_digits hne hds hzero fun c t heq => (hstop c t heq).2.1]
  unfold readPlain
  split
  · next heq => exact absurd heq (digits_append_ne hne hds rfl)
  · next heq => exact absurd heq (digits_append_ne hne hds rfl)
  · rw [hdate, htime]
    rfl

/-- What starts with no digit is no date and no time. -/
theorem readPlain_of_not_digit {c : Char} (hc : c.isDigit = false) (ht : c ≠ 't') (hf : c ≠ 'f')
    (s : List Char) : readPlain (c :: s) = readNumber (c :: s) := by
  have hdate : startsDate (c :: s) = false := by simp [startsDate, hc]
  have htime : startsTime (c :: s) = false := by
    unfold startsTime
    rw [show readDigits 2 (c :: s) = none by simp [readDigits, hc]]
  rw [readPlain, hdate, htime]
  · rfl
  · exact fun _ heq => ht (List.head_eq_of_cons_eq heq)
  · exact fun _ heq => hf (List.head_eq_of_cons_eq heq)

theorem readPlain_minus (s : List Char) : readPlain ('-' :: s) = readSigned true s :=
  readPlain_of_not_digit (by decide) (by decide) (by decide) s

/-- **A written whole number is read back.** -/
theorem readPlain_integer {n : Int} (hlow : -2 ^ 63 ≤ n) (hhigh : n < 2 ^ 63) {r : List Char}
    (hr : Follows r) : readPlain ((toString n).toList ++ r) = some (.integer n, r) := by
  cases n with
  | ofNat m =>
    have htext : toString (Int.ofNat m) = m.repr := rfl
    have hm : m < Nat.pow 2 63 := by
      have : (m : Int) < 2 ^ 63 := hhigh
      rw [Nat.pow_eq]
      exact_mod_cast this
    rw [htext, Nat.repr_eq_ofList_toDigits, String.toList_ofList,
      readPlain_digits Nat.toDigits_ne_nil (isDigit_toDigits m) (fun _ => toDigits_zero)
        (hr.stopsAt (by decide)), readDecimal_integer false m hr, integer?, if_pos (Or.inl hm)]
    rfl
  | negSucc m =>
    have htext : (toString (Int.negSucc m)).toList = '-' :: Nat.toDigits 10 (m + 1) := by
      change ("-" ++ (m + 1).repr).toList = _
      rw [Nat.repr_eq_ofList_toDigits]
      simp
    have hm : m + 1 ≤ Nat.pow 2 63 := by
      rw [Nat.pow_eq]
      have : Int.negSucc m = -((m : Int) + 1) := Int.negSucc_eq m
      rw [this] at hlow
      have : (m : Int) + 1 ≤ 2 ^ 63 := Int.le_of_neg_le_neg hlow
      exact_mod_cast this
    have hcases : m + 1 < Nat.pow 2 63 ∨ (true = true ∧ m + 1 = Nat.pow 2 63) := by
      rcases Nat.lt_or_eq_of_le hm with h | h
      · exact Or.inl h
      · exact Or.inr ⟨rfl, h⟩
    rw [htext, List.cons_append, readPlain_minus,
      readSigned_digits true Nat.toDigits_ne_nil (isDigit_toDigits (m + 1)),
      readDecimal_integer true (m + 1) hr, integer?, if_pos hcases]
    rfl

/-! ## Dates and times -/

theorem digitsValue_zeros (k : Nat) (ds : List Char) :
    digitsValue (List.replicate k '0' ++ ds) = digitsValue ds := by
  induction k with
  | zero => rfl
  | succ k ih => exact ih

theorem digitsValue_append_zeros (ds : List Char) (k : Nat) :
    digitsValue (ds ++ List.replicate k '0') = digitsValue ds * 10 ^ k := by
  induction k with
  | zero => simp
  | succ k ih =>
    rw [List.replicate_succ', ← List.append_assoc, digitsValue, List.foldl_append]
    change 10 * digitsValue (ds ++ List.replicate k '0') + ('0'.toNat - 48) = _
    rw [ih, Nat.pow_succ]
    simp only [Char.reduceToNat, Nat.sub_self, Nat.add_zero]
    rw [Nat.mul_comm, Nat.mul_assoc]

section

variable {width n : Nat} (h : n < 10 ^ width) (hwidth : 0 < width)

include h hwidth in
theorem length_padded : (padded width n).toList.length = width := by
  have := (Nat.length_toDigits_le_iff (by omega) hwidth).mpr h
  simp only [padded, String.toList_ofList, List.length_append, List.length_replicate]
  omega

theorem isDigit_padded : ∀ c ∈ (padded width n).toList, c.isDigit = true := by
  intro c hc
  rw [padded, String.toList_ofList] at hc
  rcases List.mem_append.mp hc with hc | hc
  · rw [List.eq_of_mem_replicate hc]
    decide
  · exact isDigit_toDigits n c hc

theorem digitsValue_padded : digitsValue (padded width n).toList = n := by
  rw [padded, String.toList_ofList, digitsValue_zeros, digitsValue_toDigits]

include h hwidth in
theorem readDigits_padded (r : List Char) :
    readDigits width ((padded width n).toList ++ r) = some (n, r) := by
  have hlen := length_padded h hwidth
  unfold readDigits
  dsimp only
  rw [List.take_left' hlen, List.drop_left' hlen, if_pos, digitsValue_padded]
  exact ⟨hlen, List.all_eq_true.mpr isDigit_padded⟩

end

theorem readChar_cons (c : Char) (r : List Char) : readChar c (c :: r) = some r := by
  rw [readChar, if_pos rfl]

theorem Date.bounds {d : Date} (h : d.valid = true) : d.month < 10 ^ 2 ∧ d.day < 10 ^ 2 := by
  simp only [Date.valid, Bool.and_eq_true, decide_eq_true_eq] at h
  have : daysInMonth d.year d.month ≤ 31 := by
    unfold daysInMonth
    split
    · split <;> omega
    · split <;> omega
  omega

theorem Date.toList_text (d : Date) : d.text.toList = (padded 4 d.year).toList ++
    '-' :: ((padded 2 d.month).toList ++ '-' :: (padded 2 d.day).toList) := by
  simp [Date.text]

theorem readDate_text {d : Date} (h : d.valid = true) (hyear : d.year < 10 ^ 4) (r : List Char) :
    readDate (d.text.toList ++ r) = some (d, r) := by
  obtain ⟨hmonth, hday⟩ := Date.bounds h
  have hread : readDate (d.text.toList ++ r) =
      if Date.valid ⟨d.year, d.month, d.day⟩ then some (⟨d.year, d.month, d.day⟩, r) else none := by
    simp only [readDate, Date.toList_text, List.append_assoc, List.cons_append, readChar_cons,
      readDigits_padded hyear (by omega), readDigits_padded hmonth (by omega),
      readDigits_padded hday (by omega), Option.bind_eq_bind, Option.bind_some]
  rw [hread, if_pos h]

theorem startsDate_text {d : Date} (hyear : d.year < 10 ^ 4) (r : List Char) :
    startsDate (d.text.toList ++ r) = true := by
  have hlen := length_padded hyear (by omega)
  have hdigits : ∀ c ∈ (padded 4 d.year).toList, c.isDigit = true := isDigit_padded
  rw [Date.toList_text, List.append_assoc, startsDate, List.take_left' hlen, List.drop_left' hlen,
    hlen, List.all_eq_true.mpr hdigits]
  rfl

def trimZeros (ds : List Char) : List Char := (ds.reverse.dropWhile (· == '0')).reverse

theorem exists_trimZeros (ds : List Char) : ∃ k, ds = trimZeros ds ++ List.replicate k '0' := by
  have hsplit := List.takeWhile_append_dropWhile (p := (· == '0')) (l := ds.reverse)
  have hzeros : ds.reverse.takeWhile (· == '0') =
      List.replicate (ds.reverse.takeWhile (· == '0')).length '0' :=
    List.eq_replicate_iff.mpr ⟨rfl, fun c hc => by
      simpa using List.all_eq_true.mp List.all_takeWhile c hc⟩
  generalize (ds.reverse.takeWhile (· == '0')).length = k at hzeros
  refine ⟨k, ?_⟩
  have := congrArg List.reverse hsplit
  rw [hzeros, List.reverse_append, List.reverse_replicate, List.reverse_reverse] at this
  exact this.symm

/-- The digits of a fraction mean the same without the zeros at their end. -/
theorem nanoseconds_trimZeros {n : Nat} (h : n < 10 ^ 9) (hne : n ≠ 0) :
    nanoseconds (trimZeros (padded 9 n).toList) = n ∧ trimZeros (padded 9 n).toList ≠ [] ∧
      ∀ c ∈ trimZeros (padded 9 n).toList, c.isDigit = true := by
  obtain ⟨k, hk⟩ := exists_trimZeros (padded 9 n).toList
  have hlen := length_padded h (by omega)
  have hdigits : ∀ c ∈ (padded 9 n).toList, c.isDigit = true := isDigit_padded
  have hvalue : digitsValue (padded 9 n).toList = n := digitsValue_padded
  generalize (padded 9 n).toList = ds at *
  generalize trimZeros ds = front at *
  subst hk
  rw [digitsValue_append_zeros] at hvalue
  rw [List.length_append, List.length_replicate] at hlen
  refine ⟨?_, ?_, fun c hc => hdigits c (List.mem_append_left _ hc)⟩
  · have hk : 9 - front.length = k := by omega
    rw [nanoseconds, List.take_of_length_le (by omega), Nat.pow_eq, hk, hvalue]
  · rintro rfl
    simp only [digitsValue, List.foldl_nil, Nat.zero_mul] at hvalue
    exact hne hvalue.symm

theorem Time.bounds {t : Time} (h : t.valid = true) :
    t.hour < 10 ^ 2 ∧ t.minute < 10 ^ 2 ∧ t.second < 10 ^ 2 ∧ t.hour ≤ 23 := by
  simp only [Time.valid, Bool.and_eq_true, decide_eq_true_eq] at h
  omega

/-- The fraction of a second as it is written. -/
def Time.fractionText (t : Time) : List Char :=
  if t.nanosecond = 0 then [] else '.' :: trimZeros (padded 9 t.nanosecond).toList

theorem Time.toList_text (t : Time) : t.text.toList = (padded 2 t.hour).toList ++
    ':' :: ((padded 2 t.minute).toList ++ ':' :: ((padded 2 t.second).toList ++ t.fractionText)) := by
  unfold Time.text Time.fractionText
  split
  · simp
  · simp [trimZeros]

theorem readFraction_text {t : Time} (h : t.nanosecond < 10 ^ 9) {r : List Char}
    (hr : StopsAt (fun c => c.isDigit || c = '.') r) :
    readFraction (t.fractionText ++ r) = some (t.nanosecond, r) := by
  have hstop : ∀ c s, r = c :: s → c.isDigit = false ∧ c ≠ '.' := fun c s heq => by
    have := hr c s heq
    rwa [Bool.or_eq_false_iff, decide_eq_false_iff_not] at this
  unfold Time.fractionText
  split
  · next hzero =>
    rw [List.nil_append, hzero]
    unfold readFraction
    split
    · next s => exact absurd rfl (hstop '.' s rfl).2
    · rfl
  · next hne =>
    obtain ⟨hvalue, hnil, hdigits⟩ := nanoseconds_trimZeros h hne
    generalize trimZeros (padded 9 t.nanosecond).toList = ds at *
    have htake : (ds ++ r).takeWhile Char.isDigit = ds := by
      rw [List.takeWhile_append_of_pos hdigits]
      cases r with
      | nil => simp
      | cons c s => simp [(hstop c s rfl).1]
    rw [List.cons_append, readFraction]
    simp only [htake, dropWhile_of_takeWhile htake, hvalue]
    rw [if_neg (by simpa using hnil)]

theorem readTime_text {t : Time} (h : t.valid = true) (hnano : t.nanosecond < 10 ^ 9)
    {r : List Char} (hr : StopsAt (fun c => c.isDigit || c = '.') r) :
    readTime (t.text.toList ++ r) = some (t, r) := by
  obtain ⟨hhour, hminute, hsecond, -⟩ := Time.bounds h
  have hread : readTime (t.text.toList ++ r) =
      if Time.valid ⟨t.hour, t.minute, t.second, t.nanosecond⟩ then
        some (⟨t.hour, t.minute, t.second, t.nanosecond⟩, r) else none := by
    simp only [readTime, Time.toList_text, List.append_assoc, List.cons_append, readChar_cons,
      readDigits_padded hhour (by omega), readDigits_padded hminute (by omega),
      readDigits_padded hsecond (by omega), readFraction_text hnano hr, Option.bind_eq_bind,
      Option.bind_some]
  rw [hread, if_pos h]

theorem startsTime_text {t : Time} (h : t.valid = true) (r : List Char) :
    startsTime (t.text.toList ++ r) = true := by
  obtain ⟨hhour, -, -, hclock⟩ := Time.bounds h
  unfold startsTime
  rw [Time.toList_text, List.append_assoc, List.cons_append, readDigits_padded hhour (by omega)]
  simp [hclock]

/-- A time is not taken for a date: it has a colon behind two digits. -/
theorem startsDate_time (t : Time) (r : List Char) :
    startsDate (t.text.toList ++ r) = false := by
  rw [Time.toList_text, List.append_assoc, List.cons_append]
  exact startsDate_digits isDigit_padded fun c s heq => by
    cases heq
    decide

theorem readOffset_text {o : Offset} (h : o.Valid) (r : List Char) :
    readOffset (o.text.toList ++ r) = some (some o, r) := by
  cases o with
  | zulu => rfl
  | minutes west amount =>
    obtain ⟨hamount, hwest⟩ := h
    have htext : (Offset.minutes west amount).text.toList ++ r = (if west then '-' else '+') ::
        ((padded 2 (amount / 60)).toList ++ ':' :: ((padded 2 (amount % 60)).toList ++ r)) := by
      cases west with
      | false => simp [Offset.text]
      | true => simp [Offset.text]
    have hhours : amount / 60 < 10 ^ 2 := by omega
    have hminutes : amount % 60 < 10 ^ 2 := by omega
    have hsum : 60 * (amount / 60) + amount % 60 = amount := Nat.div_add_mod amount 60
    have hrange : amount / 60 ≤ 23 ∧ amount % 60 ≤ 59 := by omega
    have hbody : ∀ c, c = '+' ∨ c = '-' →
        readOffset (c :: ((padded 2 (amount / 60)).toList ++
          ':' :: ((padded 2 (amount % 60)).toList ++ r))) =
        some (some (.minutes (c == '-' && amount != 0) amount), r) := by
      intro c hc
      have hzulu : ¬(c = 'Z' ∨ c = 'z') := by
        rcases hc with rfl | rfl
        · decide
        · decide
      simp only [readOffset, if_neg hzulu, if_pos hc, readChar_cons,
        readDigits_padded hhours (by omega), readDigits_padded hminutes (by omega),
        Option.bind_eq_bind, Option.bind_some, hsum, if_pos hrange]
    rw [htext]
    cases west with
    | false => exact hbody '+' (Or.inl rfl)
    | true =>
      refine (hbody '-' (Or.inr rfl)).trans ?_
      simp [hwest rfl]

theorem Offset.head_text (o : Offset) {r : List Char} {c : Char} {t : List Char}
    (h : o.text.toList ++ r = c :: t) : c = 'Z' ∨ c = '+' ∨ c = '-' := by
  cases o with
  | zulu => exact Or.inl (List.head_eq_of_cons_eq h).symm
  | minutes west amount =>
    cases west with
    | false =>
      simp [Offset.text] at h
      exact Or.inr (Or.inl h.1.symm)
    | true =>
      simp [Offset.text] at h
      exact Or.inr (Or.inr h.1.symm)

theorem readOffset_none {r : List Char}
    (hr : StopsAt (fun c => c = 'Z' || c = 'z' || c = '+' || c = '-') r) :
    readOffset r = some (none, r) := by
  cases r with
  | nil => rfl
  | cons c t =>
    have := hr c t rfl
    simp only [Bool.or_eq_false_iff, decide_eq_false_iff_not, and_assoc] at this
    obtain ⟨hZ, hz, hplus, hminus⟩ := this
    rw [readOffset, if_neg (by simp [hZ, hz]), if_neg (by simp [hplus, hminus])]

/-- No time follows a date where it is written. -/
theorem Follows.not_time {r : List Char} (h : Follows r) {c : Char} {t : List Char}
    (heq : r = c :: t) : ¬((c = 'T' ∨ c = 't' ∨ c = ' ') ∧ startsTime t = true) := by
  cases h with
  | nil => cases heq
  | newline => cases heq; simp
  | comma => cases heq; simp
  | bracket => cases heq; simp
  | brace t =>
    cases heq
    simp [startsTime, readDigits]

theorem readDateTime_both {s s₁ s₂ r : List Char} {x : Date} {t : Time} {o : Option Offset}
    (hdate : startsDate s = true) (hread : readDate s = some (x, 'T' :: s₁))
    (htime : startsTime s₁ = true) (hread₁ : readTime s₁ = some (t, s₂))
    (hread₂ : readOffset s₂ = some (o, r)) :
    readDateTime s = some (⟨some x, some t, o⟩, r) := by
  rw [readDateTime, if_pos hdate, hread]
  simp only [Option.bind_eq_bind, Option.bind_some]
  rw [if_pos ⟨Or.inl trivial, htime⟩, hread₁]
  simp only [Option.bind_some, hread₂]

/-- **A written date-time is read back.** -/
theorem readDateTime_text {d : DateTime} (h : d.Valid) {r : List Char} (hr : Follows r) :
    readDateTime (d.text.toList ++ r) = some (d, r) := by
  obtain ⟨date, time, offset⟩ := d
  obtain ⟨hdate, htime, hoffset, hsome⟩ := h
  cases date with
  | none =>
    cases time with
    | none => simp at hsome
    | some t =>
      cases offset with
      | some o => simp at hoffset
      | none =>
        obtain ⟨hvalid, hnano⟩ := htime t rfl
        have htext : (DateTime.mk none (some t) none).text = t.text := by simp [DateTime.text]
        rw [htext, readDateTime, if_neg (by simp [startsDate_time]),
          readTime_text hvalid hnano (hr.stopsAt (by decide))]
        rfl
  | some x =>
    obtain ⟨hx, hyear⟩ := hdate x rfl
    cases time with
    | none =>
      cases offset with
      | some o => simp at hoffset
      | none =>
        have htext : (DateTime.mk (some x) none none).text = x.text := by simp [DateTime.text]
        rw [htext, readDateTime, if_pos (startsDate_text hyear r), readDate_text hx hyear]
        cases r with
        | nil => rfl
        | cons c t => exact if_neg (hr.not_time rfl)
    | some t =>
      obtain ⟨hvalid, hnano⟩ := htime t rfl
      -- the time behind the date, and the offset behind the time
      have hrest : ∀ s, StopsAt (fun c => c.isDigit || c = '.') s →
          readOffset s = some (offset, r) → (DateTime.mk (some x) (some t) offset).text.toList ++ r =
            x.text.toList ++ 'T' :: (t.text.toList ++ s) →
          readDateTime ((DateTime.mk (some x) (some t) offset).text.toList ++ r) =
            some (⟨some x, some t, offset⟩, r) := by
        intro s hs hoffset htext
        rw [htext]
        exact readDateTime_both (startsDate_text hyear _) (readDate_text hx hyear _)
          (startsTime_text hvalid s) (readTime_text hvalid hnano hs) hoffset
      cases offset with
      | none =>
        refine hrest r (hr.stopsAt (by decide)) (readOffset_none (hr.stopsAt (by decide))) ?_
        simp [DateTime.text]
      | some o =>
        refine hrest (o.text.toList ++ r) ?_ (readOffset_text (hoffset o rfl).1 r) ?_
        · intro c s heq
          obtain rfl | rfl | rfl := o.head_text heq
          · decide
          · decide
          · decide
        · simp [DateTime.text]

end ValidatorKeys.Toml
