import ValidatorKeys.Proofs.Toml.RoundTrip.Floats
import ValidatorKeys.Proofs.Toml.RoundTrip.Strings
import ValidatorKeys.Proofs.Toml.Tables
import ValidatorKeys.Toml.Reserved

/-!
# Written values are read back

    readValue n (v.render ++ r) = some (v, r)

for every well-formed value that nests at most `n` levels deep, whatever may be written behind it.
-/

namespace ValidatorKeys.Toml

/-! ## Definitions -/

mutual

/-- The number of levels of arrays and tables in a value. -/
def Value.depth : Value → Nat
  | .array vs => itemsDepth vs + 1
  | .table fs => fieldsDepth fs + 1
  | _ => 0

def itemsDepth : List Value → Nat
  | [] => 0
  | v :: vs => max v.depth (itemsDepth vs)

def fieldsDepth : List (String × Value) → Nat
  | [] => 0
  | (_, v) :: fs => max v.depth (fieldsDepth fs)

end

theorem depth_le_itemsDepth {v : Value} {vs : List Value} (h : v ∈ vs) :
    v.depth ≤ itemsDepth vs := by
  induction vs with
  | nil => cases h
  | cons w vs ih =>
    rw [itemsDepth]
    rcases List.mem_cons.mp h with rfl | h
    · omega
    · have := ih h
      omega

theorem depth_le_fieldsDepth {f : String × Value} {fs : List (String × Value)} (h : f ∈ fs) :
    f.2.depth ≤ fieldsDepth fs := by
  induction fs with
  | nil => cases h
  | cons g fs ih =>
    obtain ⟨k, w⟩ := g
    rw [fieldsDepth]
    rcases List.mem_cons.mp h with rfl | h
    · simp only
      omega
    · have := ih h
      omega

/-! ## In front of a value -/

/-- Whether a value that holds no other values, and is no string, may start with a character. -/
def startsPlain (c : Char) : Bool := c.isDigit || ['t', 'f', 'i', 'n', '+', '-'].contains c

/-- Whether a value may start with a character. -/
def startsValue (c : Char) : Bool := startsPlain c || ['"', '\'', '[', '\x7b'].contains c

theorem readWhole_of_not_digit {c : Char} (hc : c.isDigit = false) (s : List Char) :
    readWhole (c :: s) = none := by
  unfold readWhole
  split
  · next heq =>
    rw [List.head_eq_of_cons_eq heq] at hc
    cases hc
  · rw [readRun, if_neg (by simp [hc])]

theorem readPlain_eq_none {c : Char} (hc : startsPlain c = false) (s : List Char) :
    readPlain (c :: s) = none := by
  rw [startsPlain, Bool.or_eq_false_iff, List.contains_eq_mem, decide_eq_false_iff_not] at hc
  obtain ⟨hdigit, hmem⟩ := hc
  have hne : ∀ d ∈ ['t', 'f', 'i', 'n', '+', '-'], c ≠ d := by
    rintro d hd rfl
    exact hmem hd
  have hsigned : readSigned false (c :: s) = none := by
    unfold readSigned
    split
    · next heq => exact absurd (List.head_eq_of_cons_eq heq) (hne 'i' (by simp))
    · next heq => exact absurd (List.head_eq_of_cons_eq heq) (hne 'n' (by simp))
    · rw [readDecimal, readWhole_of_not_digit hdigit]
      rfl
  have hzero : ∀ t, c :: s ≠ '0' :: t := by
    intro t heq
    rw [List.head_eq_of_cons_eq heq] at hdigit
    cases hdigit
  rw [readPlain_of_not_digit hdigit (hne 't' (by simp)) (hne 'f' (by simp))]
  unfold readNumber
  split
  · next heq => exact absurd (List.head_eq_of_cons_eq heq) (hne '+' (by simp))
  · next heq => exact absurd (List.head_eq_of_cons_eq heq) (hne '-' (by simp))
  · next heq => exact absurd heq (hzero _)
  · next heq => exact absurd heq (hzero _)
  · next heq => exact absurd heq (hzero _)
  · exact hsigned

/-- A value that starts with neither a quote nor a bracket. -/
theorem readValue_eq_readPlain {n : Nat} {s : List Char}
    (h : ∀ c ∈ ['"', '\'', '[', '\x7b'], ∀ t, s ≠ c :: t) : readValue n s = readPlain s := by
  have hstring : startsString s = false := by
    cases s with
    | nil => rfl
    | cons c t =>
      have h₁ : c ≠ '"' := fun hc => h '"' (by simp) t (by rw [hc])
      have h₂ : c ≠ '\'' := fun hc => h '\'' (by simp) t (by rw [hc])
      simp [startsString, h₁, h₂]
  rw [readValue_eq, if_neg (by simp [hstring]), readUnquoted_eq_readPlain]
  intro front hfront t
  simp only [List.mem_cons, List.not_mem_nil, or_false] at hfront
  rcases hfront with rfl | rfl
  · exact h '[' (by simp) t
  · exact h '\x7b' (by simp) t

theorem readValue_of_readPlain {n : Nat} {s : List Char} {x : Value × List Char}
    (h : readPlain s = some x) : readValue n s = some x := by
  rw [readValue_eq_readPlain, h]
  rintro c hc t rfl
  rw [readPlain_eq_none] at h
  · cases h
  · simp only [List.mem_cons, List.not_mem_nil, or_false] at hc
    rcases hc with rfl | rfl | rfl | rfl
    · decide
    · decide
    · decide
    · decide

/-- A text that is read as a value starts with a character that can start one. -/
theorem exists_startsValue {n : Nat} {s : List Char} {x : Value × List Char}
    (h : readValue n s = some x) : ∃ c t, s = c :: t ∧ startsValue c = true := by
  by_cases hs : ∀ c ∈ ['"', '\'', '[', '\x7b'], ∀ t, s ≠ c :: t
  · rw [readValue_eq_readPlain hs] at h
    cases s with
    | nil => cases h
    | cons c t =>
      refine ⟨c, t, rfl, ?_⟩
      cases hc : startsPlain c with
      | true => rw [startsValue, hc, Bool.true_or]
      | false =>
        rw [readPlain_eq_none hc] at h
        cases h
  · simp only [not_forall, Decidable.not_not] at hs
    obtain ⟨c, hc, t, rfl⟩ := hs
    refine ⟨c, t, rfl, ?_⟩
    rw [startsValue, List.contains_eq_mem, decide_eq_true hc, Bool.or_true]

theorem skipSpaces_space (s : List Char) : skipSpaces (' ' :: s) = skipSpaces s := rfl

/-- No space belongs to a value. -/
theorem skipSpaces_of_readValue {n : Nat} {s : List Char} {x : Value × List Char}
    (h : readValue n s = some x) : skipSpaces s = s := by
  obtain ⟨c, t, rfl, hc⟩ := exists_startsValue h
  refine List.dropWhile_cons_of_neg ?_
  simp only [Bool.or_eq_true, decide_eq_true_eq, not_or]
  constructor
  · rintro rfl
    cases hc
  · rintro rfl
    cases hc

/-- A gap ends in front of a character that is not part of one. -/
theorem skipGaps_of_head {s t : List Char} {c : Char} (h : skipSpaces s = c :: t)
    (hc : c ≠ '\n' ∧ c ≠ '\r' ∧ c ≠ '#') (n : Nat) : skipGaps (n + 1) s = c :: t := by
  rw [skipGaps_of_no_blankLine, h]
  intro e t' he heq
  rw [h] at heq
  cases he with
  | lineEnd he =>
    rcases he with rfl | rfl
    · exact hc.1 (List.head_eq_of_cons_eq heq)
    · exact hc.2.1 (List.head_eq_of_cons_eq heq)
  | comment => exact hc.2.2 (List.head_eq_of_cons_eq heq)

/-! ## Arrays -/

theorem length_le_renderItems (vs : List Value) : vs.length ≤ (renderItems vs).length := by
  induction vs with
  | nil => exact Nat.le_refl _
  | cons v vs ih =>
    rw [renderItems, List.length_append, List.length_append, List.length_cons]
    simp only [List.length_cons, List.length_nil]
    omega

theorem follows_renderItems (vs : List Value) (r : List Char) :
    Follows (renderItems vs ++ ']' :: r) := by
  cases vs with
  | nil => exact .bracket r
  | cons v vs =>
    rw [renderItems]
    exact .comma _

/-- An item of an array behind its gap, and what follows it. -/
theorem readItems_item {n fuel : Nat} {s t u : List Char} {v : Value}
    (hs : skipSpaces s = t) (hv : readValue n t = some (v, u)) :
    readItems (readValue n) (fuel + 1) s = match skipGaps u.length u with
      | ',' :: r => (readItems (readValue n) fuel r).map fun x => (v :: x.1, x.2)
      | ']' :: r => some ([v], r)
      | _ => none := by
  obtain ⟨c, t, rfl, hc⟩ := exists_startsValue hv
  have hne : ∀ d, startsValue d = false → c ≠ d := by
    rintro d hd rfl
    rw [hc] at hd
    cases hd
  have hlen : s.length = s.length - 1 + 1 := by
    cases s with
    | nil => cases hs
    | cons d s => rfl
  have hgap : skipGaps s.length s = c :: t := by
    rw [hlen]
    exact skipGaps_of_head hs ⟨hne _ (by decide), hne _ (by decide), hne _ (by decide)⟩ _
  rw [readItems, hgap]
  split
  · next heq => exact absurd (List.head_eq_of_cons_eq heq) (hne _ (by decide))
  · rw [hv]
    change (match skipGaps u.length u with
      | ',' :: r => (readItems (readValue n) fuel r).bind fun x => some (v :: x.1, x.2)
      | ']' :: r => some ([v], r)
      | _ => none) = _
    split
    · cases readItems (readValue n) fuel _ <;> rfl
    · rfl
    · rfl

theorem readItems_render {n : Nat} {v : Value} {vs : List Value} {r : List Char}
    (hitem : ∀ w ∈ v :: vs, ∀ r, Follows r → readValue n (w.render ++ r) = some (w, r))
    {fuel : Nat} (hfuel : vs.length < fuel) {s : List Char}
    (hs : skipSpaces s = v.render ++ (renderItems vs ++ ']' :: r)) :
    readItems (readValue n) fuel s = some (v :: vs, r) := by
  induction vs generalizing v s fuel with
  | nil =>
    obtain ⟨fuel, rfl⟩ : ∃ k, fuel = k + 1 := ⟨fuel - 1, by omega⟩
    rw [readItems_item hs (hitem v List.mem_cons_self _ (follows_renderItems [] r))]
    rw [renderItems, List.nil_append, List.length_cons, skipGaps_of_head rfl (by decide)]
    rfl
  | cons w vs ih =>
    obtain ⟨fuel, rfl⟩ : ∃ k, fuel = k + 1 := ⟨fuel - 1, by omega⟩
    rw [readItems_item hs (hitem v List.mem_cons_self _ (follows_renderItems (w :: vs) r))]
    rw [List.length_cons] at hfuel
    have hrest : renderItems (w :: vs) ++ ']' :: r =
        ',' :: ' ' :: (w.render ++ (renderItems vs ++ ']' :: r)) := by
      rw [renderItems]
      simp
    have hitem' : ∀ x ∈ w :: vs, ∀ r, Follows r → readValue n (x.render ++ r) = some (x, r) :=
      fun x hx => hitem x (List.mem_cons_of_mem _ hx)
    have hspace : skipSpaces (' ' :: (w.render ++ (renderItems vs ++ ']' :: r))) =
        w.render ++ (renderItems vs ++ ']' :: r) :=
      skipSpaces_of_readValue (hitem' w List.mem_cons_self _ (follows_renderItems vs r))
    have hmore := ih hitem' (Nat.lt_of_succ_lt_succ hfuel) hspace
    rw [hrest, List.length_cons, skipGaps_of_head rfl (by decide)]
    change (readItems (readValue n) fuel _).map _ = _
    rw [hmore]
    rfl

/-! ## Inline tables -/

/-- A field of an inline table and those behind it, in front of the closing brace. -/
def fieldsText (k : String) (v : Value) (fs : List (String × Value)) (r : List Char) : List Char :=
  writtenKey k.toList ++ ' ' :: '=' :: ' ' :: (v.render ++ (renderFields fs ++ ' ' :: '\x7d' :: r))

theorem length_le_renderFields (fs : List (String × Value)) :
    fs.length ≤ (renderFields fs).length := by
  induction fs with
  | nil => exact Nat.le_refl _
  | cons f fs ih =>
    rw [renderFields]
    simp only [List.length_append, List.length_cons, List.length_nil]
    omega

theorem renderFields_cons (k : String) (v : Value) (fs : List (String × Value)) (r : List Char) :
    renderFields ((k, v) :: fs) ++ ' ' :: '\x7d' :: r = ',' :: ' ' :: fieldsText k v fs r := by
  rw [renderFields, fieldsText]
  simp

theorem follows_renderFields (fs : List (String × Value)) (r : List Char) :
    Follows (renderFields fs ++ ' ' :: '\x7d' :: r) := by
  cases fs with
  | nil => exact .brace r
  | cons f fs =>
    obtain ⟨k, v⟩ := f
    rw [renderFields_cons]
    exact .comma _

theorem readKey_fieldsText (k : String) (v : Value) (fs : List (String × Value)) (r : List Char) :
    readKey (fieldsText k v fs r) =
      some (([], k), '=' :: ' ' :: (v.render ++ (renderFields fs ++ ' ' :: '\x7d' :: r))) := by
  rw [fieldsText, readKey_keyForm (keyForm_writtenKey k.toList), String.ofList_toList]

theorem readKey_space (s : List Char) : readKey (' ' :: s) = readKey s := rfl

/-- A field of an inline table, and what follows it. -/
theorem readInlineFields_field {n fuel : Nat} {table table' : Section} {k : String} {v : Value}
    {s t u : List Char} (hk : readKey s = some (([], k), '=' :: t))
    (hv : readValue n (skipSpaces t) = some (v, u)) (hd : table.define [] k v = some table') :
    readInlineFields (readValue n) (fuel + 1) table s = match skipSpaces u with
      | ',' :: r => readInlineFields (readValue n) fuel table' r
      | '\x7d' :: r => some (table', r)
      | _ => none := by
  have hstep := readInlineFields.eq_2 (readValue n) table s fuel
  rw [hk] at hstep
  simp only [Option.bind_eq_bind, Option.bind_some, readChar_cons, hv, hd] at hstep
  exact hstep

theorem readInlineFields_render {n : Nat} {k : String} {v : Value} {fs : List (String × Value)}
    {r : List Char} {table table' : Section}
    (hitem : ∀ f ∈ (k, v) :: fs, ∀ r, Follows r → readValue n (f.2.render ++ r) = some (f.2, r))
    (hdefine : defineAll (definitionsOf ((k, v) :: fs)) table = some table') {fuel : Nat}
    (hfuel : fs.length < fuel) {s : List Char} (hs : readKey s = readKey (fieldsText k v fs r)) :
    readInlineFields (readValue n) fuel table s = some (table', r) := by
  induction fs generalizing k v table s fuel with
  | nil =>
    obtain ⟨fuel, rfl⟩ : ∃ k, fuel = k + 1 := ⟨fuel - 1, by omega⟩
    obtain ⟨table₁, hd, hrest⟩ := Option.bind_eq_some_iff.mp hdefine
    cases hrest
    have hv := hitem _ List.mem_cons_self _ (follows_renderFields [] r)
    rw [readKey_fieldsText] at hs
    rw [readInlineFields_field hs
      (by rw [skipSpaces_space, skipSpaces_of_readValue hv]; exact hv) hd]
    rfl
  | cons f fs ih =>
    obtain ⟨k', v'⟩ := f
    obtain ⟨fuel, rfl⟩ : ∃ k, fuel = k + 1 := ⟨fuel - 1, by omega⟩
    obtain ⟨table₁, hd, hrest⟩ := Option.bind_eq_some_iff.mp hdefine
    have hv := hitem _ List.mem_cons_self _ (follows_renderFields ((k', v') :: fs) r)
    rw [readKey_fieldsText] at hs
    rw [readInlineFields_field hs
      (by rw [skipSpaces_space, skipSpaces_of_readValue hv]; exact hv) hd, renderFields_cons]
    exact ih (fun f hf => hitem f (List.mem_cons_of_mem _ hf)) hrest (Nat.lt_of_succ_lt_succ hfuel)
      (readKey_space _)

theorem toTable_definitions (fs : List (String × Value)) :
    Section.toTable { fields := fs.map fun f => (f.1, .value f.2) } = fs := by
  rw [Section.toTable, finishFields_eq_map, List.map_map]
  refine (List.map_congr_left fun f _ => ?_).trans (List.map_id fs)
  simp [Entry.toValue]

theorem readInlineTable_render {n : Nat} {k : String} {v : Value} {fs : List (String × Value)}
    {r : List Char} (hnodup : (((k, v) :: fs).map Prod.fst).Nodup)
    (hitem : ∀ f ∈ (k, v) :: fs, ∀ r, Follows r → readValue n (f.2.render ++ r) = some (f.2, r)) :
    readInlineTable (readValue n) (' ' :: fieldsText k v fs r) =
      some (.table ((k, v) :: fs), r) := by
  have hdefine := defineAll_definitionsOf hnodup (c := {}) (fun _ _ => rfl) rfl
  have hfuel : fs.length < (fieldsText k v fs r).length := by
    have := length_le_renderFields fs
    simp only [fieldsText, List.length_append, List.length_cons]
    omega
  have hspaces : skipSpaces (' ' :: fieldsText k v fs r) = fieldsText k v fs r :=
    skipSpaces_keyForm (keyForm_writtenKey k.toList) _
  have hbrace : ∀ t, fieldsText k v fs r ≠ '\x7d' :: t := by
    intro t heq
    have := readKey_fieldsText k v fs r
    rw [heq] at this
    cases this
  rw [readInlineTable, hspaces]
  split
  · next t heq => exact absurd heq (hbrace t)
  · rw [readInlineFields_render hitem hdefine hfuel rfl]
    simp only [Option.map_some, List.nil_append, toTable_definitions]

/-! ## Values -/

theorem startsString_of_readString {s : List Char} {x : List Char × List Char}
    (h : readString s = some x) : startsString s = true := by
  unfold readString at h
  split at h
  · rfl
  · rfl
  · rfl
  · rfl
  · cases h

theorem readValue_string (n : Nat) (s : String) {r : List Char} (hr : Follows r) :
    readValue n (written s.toList ++ r) = some (.string s, r) := by
  have hquote : ∀ q ∈ ['"', '\''], ∀ t, r ≠ q :: t := by
    intro q hq t heq
    simp only [List.mem_cons, List.not_mem_nil, or_false] at hq
    subst heq
    rcases hq with rfl | rfl
    · cases hr
    · cases hr
  have hread := readString_written s.toList hquote
  rw [readValue_eq, if_pos (startsString_of_readString hread), hread, Option.map_some,
    String.ofList_toList]

/-- A date-time starts with the digits of its date or of its time. -/
theorem startsDate_or_startsTime {d : DateTime} (h : d.Valid) (r : List Char) :
    (startsDate (d.text.toList ++ r) || startsTime (d.text.toList ++ r)) = true := by
  obtain ⟨date, time, offset⟩ := d
  obtain ⟨hdate, htime, hoffset, hsome⟩ := h
  cases date with
  | some x =>
    have htext : ∃ rest, (DateTime.mk (some x) time offset).text.toList ++ r =
        x.text.toList ++ rest := by
      simp only [DateTime.text, String.toList_append, List.append_assoc]
      exact ⟨_, rfl⟩
    obtain ⟨rest, htext⟩ := htext
    rw [htext, startsDate_text (hdate x rfl).2, Bool.true_or]
  | none =>
    cases time with
    | none => simp at hsome
    | some t =>
      cases offset with
      | some o => simp at hoffset
      | none =>
        have htext : (DateTime.mk none (some t) none).text = t.text := by simp [DateTime.text]
        rw [htext, startsTime_text (htime t rfl).1, Bool.or_true]

theorem readPlain_of_starts {s : List Char} (h : (startsDate s || startsTime s) = true) :
    readPlain s = (readDateTime s).map fun x => (.dateTime x.1, x.2) := by
  unfold readPlain
  split
  · simp [startsDate, startsTime, readDigits] at h
  · simp [startsDate, startsTime, readDigits] at h
  · rw [if_pos h]

theorem readPlain_dateTime {d : DateTime} (h : d.Valid) {r : List Char} (hr : Follows r) :
    readPlain (d.text.toList ++ r) = some (.dateTime d, r) := by
  rw [readPlain_of_starts (startsDate_or_startsTime h r), readDateTime_text h hr]
  rfl

/-- A written value that holds no other values is read back. -/
theorem readValue_scalar {n : Nat} {v : Value} (hv : v.WellFormed) (hdepth : v.depth = 0)
    {r : List Char} (hr : Follows r) : readValue n (v.render ++ r) = some (v, r) := by
  cases hv with
  | string s =>
    rw [Value.render]
    exact readValue_string n s hr
  | integer hlow hhigh =>
    rw [Value.render]
    exact readValue_of_readPlain (readPlain_integer hlow hhigh hr)
  | float hf =>
    rw [Value.render]
    exact readValue_of_readPlain (readPlain_float hf hr)
  | boolean b =>
    rw [Value.render]
    refine readValue_of_readPlain ?_
    cases b with
    | true => rfl
    | false => rfl
  | dateTime hd =>
    rw [Value.render]
    exact readValue_of_readPlain (readPlain_dateTime hd hr)
  | array _ => cases hdepth
  | table _ _ => cases hdepth

/-- **A written value is read back**, whatever may be written behind it. -/
theorem readValue_render {n : Nat} {v : Value} (hv : v.WellFormed) (hn : v.depth ≤ n)
    {r : List Char} (hr : Follows r) : readValue n (v.render ++ r) = some (v, r) := by
  induction n generalizing v r with
  | zero => exact readValue_scalar hv (Nat.le_zero.mp hn) hr
  | succ n ih =>
    cases hv with
    | @array vs hvs =>
      rw [Value.depth] at hn
      cases vs with
      | nil => rfl
      | cons v vs =>
        have hitem : ∀ w ∈ v :: vs, ∀ r, Follows r → readValue n (w.render ++ r) = some (w, r) := by
          intro w hw r hr
          have := depth_le_itemsDepth hw
          exact ih (hvs w hw) (by omega) hr
        have htext : (Value.array (v :: vs)).render ++ r =
            '[' :: (v.render ++ (renderItems vs ++ ']' :: r)) := by
          rw [Value.render]
          simp
        have hlen := length_le_renderItems vs
        have hfuel : vs.length < (v.render ++ (renderItems vs ++ ']' :: r)).length + 1 := by
          simp only [List.length_append]
          omega
        have hread := readItems_render hitem hfuel
          (skipSpaces_of_readValue (hitem v List.mem_cons_self _ (follows_renderItems vs r)))
        rw [htext, readValue, hread]
        rfl
    | @table fs hnodup hfs =>
      rw [Value.depth] at hn
      cases fs with
      | nil => rfl
      | cons f fs =>
        obtain ⟨k, v⟩ := f
        have hitem : ∀ g ∈ (k, v) :: fs, ∀ r, Follows r →
            readValue n (g.2.render ++ r) = some (g.2, r) := by
          intro g hg r hr
          have := depth_le_fieldsDepth hg
          exact ih (hfs g hg) (by omega) hr
        have htext : (Value.table ((k, v) :: fs)).render ++ r =
            '\x7b' :: ' ' :: fieldsText k v fs r := by
          rw [Value.render, fieldsText]
          simp
        rw [htext]
        change readInlineTable (readValue n) (' ' :: fieldsText k v fs r) = _
        exact readInlineTable_render hnodup hitem
    | string s => exact readValue_scalar (.string s) rfl hr
    | integer hlow hhigh => exact readValue_scalar (.integer hlow hhigh) rfl hr
    | float hf => exact readValue_scalar (.float hf) rfl hr
    | boolean b => exact readValue_scalar (.boolean b) rfl hr
    | dateTime hd => exact readValue_scalar (.dateTime hd) rfl hr

end ValidatorKeys.Toml
