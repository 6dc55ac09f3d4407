import ValidatorKeys.Proofs.Toml.Framing.Strings

/-!
# What readers of numbers and dates take

Both stop within their line, and look no further than its end.
-/

namespace ValidatorKeys.Toml

/-! ## Digits -/

/-- Neither a digit nor an underscore follows. -/
def NoDigit (p : Char → Bool) (s : List Char) : Prop := ∀ c t, s = c :: t → c ≠ '_' ∧ p c = false

theorem readMoreDigits_of_noDigit {p : Char → Bool} {s : List Char} (h : NoDigit p s) :
    readMoreDigits p s = some ([], s) := by
  cases s with
  | nil => rfl
  | cons c t =>
    obtain ⟨hc, hp⟩ := h c t rfl
    rw [readMoreDigits]
    · simp [hp]
    · exact fun d r heq _ => hc heq
    · exact fun heq _ => hc heq

section

variable {p : Char → Bool} (hr : p '\r' = false) (hn : p '\n' = false)

include hr hn

theorem NoDigit.of_sameLine {s t : List Char} (hs : NoDigit p s) (h : SameLine s t) :
    NoDigit p t := by
  rintro c t' rfl
  cases h with
  | newline => exact ⟨by decide, hn⟩
  | change => exact ⟨by decide, hn⟩
  | keep => exact ⟨by decide, hr⟩
  | char _ _ _ => exact hs c _ rfl

theorem framed_readMoreDigits : Framed (readMoreDigits p) := by
  have hclass : ∀ {c : Char}, p c = true → c ≠ '\r' := by
    rintro c hc rfl
    rw [hr] at hc
    cases hc
  refine framed_iff.mpr fun s v r h => ?_
  induction s using readMoreDigits.induct p generalizing v with
  | case1 =>
    cases h
    refine .stop fun s' hline => ?_
    cases hline
    rfl
  | case2 c t hc ih =>
    rw [readMoreDigits, if_pos hc] at h
    obtain ⟨cs, hcs, rfl⟩ := consRead_eq_some.mp h
    refine (ih _ hcs).behind (e := ['_', c]) (by simpa using hclass hc) fun s' r' _ hf => ?_
    simp only [List.cons_append, List.nil_append]
    rw [readMoreDigits, if_pos hc, hf]
    rfl
  | case3 c t hc =>
    rw [readMoreDigits, if_neg hc] at h
    cases h
  | case4 => cases h
  | case5 c t h₁ h₂ hc ih =>
    have hne : c ≠ '_' := by
      rintro rfl
      cases t with
      | nil => exact h₂ rfl rfl
      | cons d t => exact h₁ d t rfl rfl
    have hread : ∀ t, readMoreDigits p (c :: t) = consRead c (readMoreDigits p t) := by
      intro t
      rw [readMoreDigits, if_pos hc]
      · exact fun d r heq _ => hne heq
      · exact fun heq _ => hne heq
    rw [hread t] at h
    obtain ⟨cs, hcs, rfl⟩ := consRead_eq_some.mp h
    exact (ih _ hcs).cons (hclass hc) fun s' _ => hread s'
  | case6 c t h₁ h₂ hc =>
    have hne : c ≠ '_' := by
      rintro rfl
      cases t with
      | nil => exact h₂ rfl rfl
      | cons d t => exact h₁ d t rfl rfl
    have hstop : NoDigit p (c :: t) := by
      intro d t' heq
      cases heq
      exact ⟨hne, by simpa using hc⟩
    rw [readMoreDigits_of_noDigit hstop] at h
    cases h
    exact .stop fun s' hline => readMoreDigits_of_noDigit (hstop.of_sameLine hr hn hline)

theorem framed_readRun : Framed (readRun p) := by
  refine framed_iff.mpr fun s v r h => ?_
  cases s with
  | nil => cases h
  | cons c t =>
    rw [readRun] at h
    split at h
    · next hc =>
      have hreturn : c ≠ '\r' := by
        rintro rfl
        rw [hr] at hc
        cases hc
      obtain ⟨cs, hcs, rfl⟩ := consRead_eq_some.mp h
      refine ((framed_readMoreDigits hr hn).at hcs).behind (e := [c]) (by simpa using hreturn)
        fun s' r' _ hf => ?_
      rw [List.singleton_append, readRun, if_pos hc, hf]
      rfl
    · cases h

end

theorem framed_readDigitRun : Framed (readRun Char.isDigit) :=
  framed_readRun (by decide) (by decide)

/-! ## Numbers -/

theorem framed_readInBase (base : Nat) : Framed (readInBase base) :=
  (framed_readRun (p := fun c => (hexValue? c).any (· < base)) rfl rfl).bind fun ds =>
    framed_option (integer? false (valueInBase base ds))

theorem framed_readWhole : Framed readWhole := by
  refine framed_of_prefixes [['0']] (by simp) (framed_pure ['0']) framed_readDigitRun
    fun s hs => ?_
  rw [readWhole]
  exact hs ['0'] (by simp)

theorem framed_readExponentDigits (negative : Bool) : Framed (readExponentDigits negative) :=
  framed_readDigitRun.map fun ds => if negative then -(digitsValue ds : Int) else digitsValue ds

theorem framed_readExponent : Framed readExponent := by
  refine framed_of_prefixes [['-'], ['+']] (by simp)
    ⟨framed_readExponentDigits true, framed_readExponentDigits false⟩
    (framed_readExponentDigits false) fun s hs => ?_
  unfold readExponent
  split
  · exact absurd rfl (hs ['-'] (by simp) _)
  · exact absurd rfl (hs ['+'] (by simp) _)
  · rfl

theorem framed_readOptionalExponent : Framed readOptionalExponent := by
  refine framed_of_prefixes [['e'], ['E']] (by simp) ⟨framed_readExponent, framed_readExponent⟩
    (framed_pure 0) fun s hs => ?_
  cases s with
  | nil => rfl
  | cons c t =>
    have hc : ¬(c = 'e' ∨ c = 'E') := by
      rintro (rfl | rfl)
      · exact hs ['e'] (by simp) t rfl
      · exact hs ['E'] (by simp) t rfl
    rw [readOptionalExponent, if_neg hc]

/-- Reads what follows the whole part of a decimal number. -/
def readDecimalRest (negative : Bool) (whole : List Char) :
    List Char → Option (Value × List Char)
  | '.' :: r =>
    (readRun Char.isDigit r).bind fun x =>
      (readOptionalExponent x.2).bind fun y =>
        (float? negative whole x.1 y.1).bind fun v => some (v, y.2)
  | c :: r =>
    if c = 'e' ∨ c = 'E' then
      (readExponent r).bind fun x => (float? negative whole [] x.1).bind fun v => some (v, x.2)
    else (integer? negative (digitsValue whole)).bind fun v => some (v, c :: r)
  | [] => (integer? negative (digitsValue whole)).bind fun v => some (v, [])

theorem framed_readDecimal (negative : Bool) : Framed (readDecimal negative) := by
  have hfraction : ∀ whole : List Char, Framed fun r =>
      (readRun Char.isDigit r).bind fun x =>
        (readOptionalExponent x.2).bind fun y =>
          (float? negative whole x.1 y.1).bind fun v => some (v, y.2) := fun whole =>
    framed_readDigitRun.bind fun fraction =>
      framed_readOptionalExponent.bind fun e => framed_option (float? negative whole fraction e)
  have hexponent : ∀ whole : List Char, Framed fun r =>
      (readExponent r).bind fun x => (float? negative whole [] x.1).bind fun v => some (v, x.2) :=
    fun whole => framed_readExponent.bind fun e => framed_option (float? negative whole [] e)
  have hwhole : ∀ whole : List Char, Framed (readDecimalRest negative whole) := by
    intro whole
    refine framed_of_prefixes [['.'], ['e'], ['E']] (by simp)
      ⟨hfraction whole, hexponent whole, hexponent whole⟩
      (framed_option (integer? negative (digitsValue whole))) fun s hs => ?_
    unfold readDecimalRest
    split
    · exact absurd rfl (hs ['.'] (by simp) _)
    · next c t _ =>
      refine if_neg ?_
      rintro (rfl | rfl)
      · exact hs ['e'] (by simp) t rfl
      · exact hs ['E'] (by simp) t rfl
    · rfl
  exact framed_readWhole.bind hwhole

theorem framed_readSigned (negative : Bool) : Framed (readSigned negative) := by
  refine framed_of_prefixes [['i', 'n', 'f'], ['n', 'a', 'n']] (by simp)
    ⟨framed_pure (Value.float (.infinite negative)), framed_pure (Value.float .nan)⟩
    (framed_readDecimal negative) fun s hs => ?_
  unfold readSigned
  split
  · exact absurd rfl (hs ['i', 'n', 'f'] (by simp) _)
  · exact absurd rfl (hs ['n', 'a', 'n'] (by simp) _)
  · rfl

theorem framed_readNumber : Framed readNumber := by
  refine framed_of_prefixes [['+'], ['-'], ['0', 'x'], ['0', 'o'], ['0', 'b']] (by simp)
    ⟨framed_readSigned false, framed_readSigned true, framed_readInBase 16, framed_readInBase 8,
      framed_readInBase 2⟩ (framed_readSigned false) fun s hs => ?_
  unfold readNumber
  split
  · exact absurd rfl (hs ['+'] (by simp) _)
  · exact absurd rfl (hs ['-'] (by simp) _)
  · exact absurd rfl (hs ['0', 'x'] (by simp) _)
  · exact absurd rfl (hs ['0', 'o'] (by simp) _)
  · exact absurd rfl (hs ['0', 'b'] (by simp) _)
  · rfl

/-! ## Dates and times -/

theorem isDigit_line {c : Char} (h : c.isDigit = true) : c ≠ '\r' ∧ c ≠ '\n' := by
  constructor
  · rintro rfl
    cases h
  · rintro rfl
    cases h

theorem readDigits_eq_some {n m : Nat} {s r : List Char} (h : readDigits n s = some (m, r)) :
    s = s.take n ++ r ∧ (s.take n).length = n ∧ (∀ c ∈ s.take n, c.isDigit = true) ∧
      ∀ t, readDigits n (s.take n ++ t) = some (m, t) := by
  unfold readDigits at h
  dsimp only at h
  split at h
  · next hds =>
    cases h
    refine ⟨(List.take_append_drop n s).symm, hds.1, List.all_eq_true.mp hds.2, fun t => ?_⟩
    have htake : (s.take n ++ t).take n = s.take n := List.take_left' hds.1
    have hdrop : (s.take n ++ t).drop n = t := List.drop_left' hds.1
    unfold readDigits
    dsimp only
    rw [htake, hdrop, if_pos hds]
  · cases h

theorem framed_readDigits (n : Nat) : Framed (readDigits n) := by
  refine framed_iff.mpr fun s m r h => ?_
  obtain ⟨hs, -, hdigits, hread⟩ := readDigits_eq_some h
  rw [hs]
  exact .take (fun c hc => (isDigit_line (hdigits c hc)).1) fun s' _ => hread s'

theorem framed_readDate : Framed readDate := by
  have hday : ∀ year month : Nat, Framed fun s => (readDigits 2 s).bind fun x =>
      if Date.valid ⟨year, month, x.1⟩ then some ((⟨year, month, x.1⟩ : Date), x.2) else none :=
    fun year month => (framed_readDigits 2).bind fun day =>
      (framed_pure (⟨year, month, day⟩ : Date)).guard (Date.valid ⟨year, month, day⟩)
  exact (framed_readDigits 4).bind fun year =>
    ((framed_readDigits 2).bind fun month =>
      (hday year month).readChar (by decide)).readChar (by decide)

theorem framed_readFraction : Framed readFraction := by
  have hdigits : Framed fun r =>
      if (r.takeWhile Char.isDigit).isEmpty then none
      else some (nanoseconds (r.takeWhile Char.isDigit), r.dropWhile Char.isDigit) := by
    refine framed_iff.mpr fun s v r h => ?_
    split at h
    · cases h
    · next hne =>
      cases h
      have hrun : Framed fun s => some (s.takeWhile Char.isDigit, s.dropWhile Char.isDigit) :=
        framed_takeWhile (by decide) (by decide)
      refine (hrun.at rfl).behind (e := []) (by simp) fun s' r' _ hf => ?_
      obtain ⟨htake, hdrop⟩ := Prod.mk.inj (Option.some.inj hf)
      rw [List.nil_append, htake, hdrop, if_neg hne]
  refine framed_of_prefixes [['.']] (by simp) hdigits (framed_pure 0) fun s hs => ?_
  unfold readFraction
  split
  · exact absurd rfl (hs ['.'] (by simp) _)
  · rfl

theorem framed_readTime : Framed readTime := by
  have hsecond : ∀ hour minute : Nat, Framed fun s => (readDigits 2 s).bind fun x =>
      (readFraction x.2).bind fun y =>
        if Time.valid ⟨hour, minute, x.1, y.1⟩ then
          some ((⟨hour, minute, x.1, y.1⟩ : Time), y.2)
        else none :=
    fun hour minute => (framed_readDigits 2).bind fun second =>
      framed_readFraction.bind fun fraction =>
        (framed_pure (⟨hour, minute, second, fraction⟩ : Time)).guard
          (Time.valid ⟨hour, minute, second, fraction⟩)
  exact (framed_readDigits 2).bind fun hour =>
    ((framed_readDigits 2).bind fun minute =>
      (hsecond hour minute).readChar (by decide)).readChar (by decide)

theorem framed_readOffset : Framed readOffset := by
  have hamount : ∀ c : Char, Framed fun r =>
      (readDigits 2 r).bind fun x => (readChar ':' x.2).bind fun s =>
        (readDigits 2 s).bind fun y =>
          if x.1 ≤ 23 ∧ y.1 ≤ 59 then
            some (some (Offset.minutes (c == '-' && 60 * x.1 + y.1 != 0) (60 * x.1 + y.1)), y.2)
          else none := fun c =>
    (framed_readDigits 2).bind fun hours =>
      ((framed_readDigits 2).bind fun minutes =>
        (framed_pure (some (Offset.minutes (c == '-' && 60 * hours + minutes != 0)
          (60 * hours + minutes)))).guard (hours ≤ 23 ∧ minutes ≤ 59)).readChar (by decide)
  have hzulu : Framed fun s => some (some Offset.zulu, s) := framed_pure (some Offset.zulu)
  refine framed_of_prefixes [['Z'], ['z'], ['+'], ['-']] (by simp)
    ⟨hzulu, hzulu, hamount '+', hamount '-'⟩ (framed_pure none) fun s hs => ?_
  cases s with
  | nil => rfl
  | cons c t =>
    have hzulu : ¬(c = 'Z' ∨ c = 'z') := by
      rintro (rfl | rfl)
      · exact hs ['Z'] (by simp) t rfl
      · exact hs ['z'] (by simp) t rfl
    have hsign : ¬(c = '+' ∨ c = '-') := by
      rintro (rfl | rfl)
      · exact hs ['+'] (by simp) t rfl
      · exact hs ['-'] (by simp) t rfl
    rw [readOffset, if_neg hzulu, if_neg hsign]

theorem decided_startsDate : Decided startsDate := by
  intro s hs
  rw [startsDate, Bool.and_eq_true, Bool.and_eq_true, beq_iff_eq, beq_iff_eq] at hs
  obtain ⟨⟨hlen, hdigits⟩, hhead⟩ := hs
  obtain ⟨t, ht⟩ := List.head?_eq_some_iff.mp hhead
  refine ⟨s.take 4 ++ ['-'], t, ?_, fun c hc => ?_, fun t' => ?_⟩
  · rw [List.append_assoc, List.singleton_append, ← ht, List.take_append_drop]
  · rcases List.mem_append.mp hc with hc | hc
    · exact isDigit_line (List.all_eq_true.mp hdigits c hc)
    · rw [List.mem_singleton.mp hc]
      decide
  · rw [List.append_assoc, startsDate, List.take_left' hlen, List.drop_left' hlen, hlen, hdigits]
    rfl

theorem decided_startsTime : Decided startsTime := by
  intro s hs
  unfold startsTime at hs
  split at hs
  · next hour r hread =>
    rw [Bool.and_eq_true, beq_iff_eq, decide_eq_true_eq] at hs
    obtain ⟨t, rfl⟩ := List.head?_eq_some_iff.mp hs.2
    obtain ⟨hs', -, hdigits, hread'⟩ := readDigits_eq_some hread
    refine ⟨s.take 2 ++ [':'], t, ?_, fun c hc => ?_, fun t' => ?_⟩
    · rwa [List.append_assoc]
    · rcases List.mem_append.mp hc with hc | hc
      · exact isDigit_line (hdigits c hc)
      · rw [List.mem_singleton.mp hc]
        decide
    · unfold startsTime
      rw [List.append_assoc, hread']
      simp [hs.1]
  · cases hs

def readDateRest (date : Date) (s : List Char) : Option (DateTime × List Char) :=
  match s with
  | c :: r =>
    if (c = 'T' ∨ c = 't' ∨ c = ' ') ∧ startsTime r then
      (readTime r).bind fun x =>
        (readOffset x.2).bind fun y => some (⟨some date, some x.1, y.1⟩, y.2)
    else some (⟨some date, none, none⟩, s)
  | [] => some (⟨some date, none, none⟩, [])

theorem framed_readDateTime : Framed readDateTime := by
  have htime : ∀ date : Date, Framed fun s => (readTime s).bind fun x =>
      (readOffset x.2).bind fun y => some ((⟨some date, some x.1, y.1⟩ : DateTime), y.2) :=
    fun date => framed_readTime.bind fun time =>
      framed_readOffset.bind fun offset =>
        framed_pure (⟨some date, some time, offset⟩ : DateTime)
  have hrest : ∀ date : Date, Framed (readDateRest date) := by
    intro date
    refine framed_of_fronts [['T'], ['t'], [' ']] (by simp) (fun _ _ => htime date)
      (framed_pure (⟨some date, none, none⟩ : DateTime)) decided_startsTime
      ⟨fun t ht => if_pos ⟨by simp, ht⟩, fun t ht => if_pos ⟨by simp, ht⟩,
        fun t ht => if_pos ⟨by simp, ht⟩⟩ fun s hs => ?_
    cases s with
    | nil => rfl
    | cons c t =>
      refine if_neg ?_
      rintro ⟨rfl | rfl | rfl, ht⟩
      · exact hs ['T'] (by simp) t ht rfl
      · exact hs ['t'] (by simp) t ht rfl
      · exact hs [' '] (by simp) t ht rfl
  have hdate := framed_readDate.bind hrest
  have hlocal : Framed fun s => (readTime s).bind fun x =>
      some ((⟨none, some x.1, none⟩ : DateTime), x.2) :=
    framed_readTime.bind fun time => framed_pure (⟨none, some time, none⟩ : DateTime)
  exact framed_of_test hdate hlocal decided_startsDate

end ValidatorKeys.Toml
