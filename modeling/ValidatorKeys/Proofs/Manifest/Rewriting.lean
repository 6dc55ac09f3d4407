import ValidatorKeys.Proofs.Manifest.Lines
import ValidatorKeys.Proofs.Manifest.Order
import ValidatorKeys.Proofs.Toml.RoundTrip.Reserved

/-!
# Reading a rewritten manifest

The rewriting goes by lines, the reader by statements.  Where the reader comes to each of the places
at which the manifest is cut, it reads the rewritten manifest as the same statements, with those of
the entries in the place of those of the body.
-/

namespace ValidatorKeys.Manifest

open Text (lines)
open Toml (Statement ReadsTo readStatements)

/-! ## Definitions -/

/-- What the reader takes from the parts of a manifest: it comes to each cut, and only the header
there opens the table of the dependencies. -/
structure ReadAs (before header body after : List Char) (a defs b : List Statement) : Prop where
  before : ReadsTo (Toml.skipByteOrderMark (before ++ (header ++ (body ++ after)))) a
    (header ++ (body ++ after))
  header : ReadsTo (header ++ (body ++ after)) [.header [] "dependencies"] (body ++ after)
  body : ReadsTo (body ++ after) defs after
  after : readStatements (after.length + 1) after = some b
  body_defines : ∀ st ∈ defs, st.isDefinition = true
  before_apart : ∀ st ∈ a, st.opens ≠ some "dependencies"
  after_apart : ∀ st ∈ b, st.opens ≠ some "dependencies"

/-- Dependencies that are written so that they can be read again: no name takes several lines, no
value nests too deep, and the first key is not the one that is reserved for date-times. -/
structure Writable (deps : Toml.Table) : Prop where
  names : ∀ f ∈ deps, ∀ q ∈ ['"', '\''], ¬ [q, q, q] <+: writtenName f.1
  depth : ∀ f ∈ deps, f.2.depth < Toml.nestingLimit
  first : (sortedNames deps.keys).head? ≠ some Toml.dateTimeKey

/-- The fields as which written entries are read. -/
def standingFields (fs : List (String × Toml.Value)) : List (String × Toml.Value) :=
  fs.map fun f => (f.1, f.2.standing)

theorem map_fst_standingFields (fs : List (String × Toml.Value)) :
    (standingFields fs).map Prod.fst = fs.map Prod.fst := by
  rw [standingFields, List.map_map]
  rfl

/-! ## In front of a statement -/

/-- Whether a statement may start with a character, or spaces in front of one. -/
def startsStatement (c : Char) : Bool :=
  Toml.isBareChar c || ['[', '"', '\'', ' ', '\t'].contains c

theorem readStatement_eq_none {c : Char} (h : startsStatement c = false) (t : List Char) :
    Toml.readStatement (c :: t) = none := by
  rw [startsStatement, Bool.or_eq_false_iff, List.contains_eq_mem, decide_eq_false_iff_not] at h
  obtain ⟨hbare, hmem⟩ := h
  have hne : ∀ d ∈ ['[', '"', '\'', ' ', '\t'], c ≠ d := by
    rintro d hd rfl
    exact hmem hd
  have hspaces : Toml.skipSpaces (c :: t) = c :: t :=
    List.dropWhile_cons_of_neg (by simp [hne ' ' (by simp), hne '\t' (by simp)])
  have hpart : Toml.readKeyPart (c :: t) = none := by
    unfold Toml.readKeyPart
    split
    · next heq => exact absurd (List.head_eq_of_cons_eq heq) (hne '"' (by simp))
    · next heq => exact absurd (List.head_eq_of_cons_eq heq) (hne '\'' (by simp))
    · simp [hbare]
  have hkey : Toml.readKey (c :: t) = none := by
    have hparts : Toml.readKeyParts (Toml.nestingLimit - 1) (c :: t) = none := by
      change (Toml.readKeyPart (Toml.skipSpaces (c :: t))).bind _ = none
      rw [hspaces, hpart]
      rfl
    rw [Toml.readKey, hparts]
    rfl
  unfold Toml.readStatement
  split
  · next heq => exact absurd (List.head_eq_of_cons_eq heq) (hne '[' (by simp))
  · next heq => exact absurd (List.head_eq_of_cons_eq heq) (hne '[' (by simp))
  · rw [Toml.readDefinition, hkey]
    rfl

theorem isBlank_of_bare {c : Char} (h : Toml.isBareChar c = true) : Text.isBlank c = false := by
  have hbetween : ∀ a b : Char, 45 ≤ a.toNat → b.toNat ≤ 122 → a.val ≤ c.val ∧ c.val ≤ b.val →
      45 ≤ c.toNat ∧ c.toNat ≤ 122 := fun _ _ ha hb hc =>
    ⟨Nat.le_trans ha (UInt32.le_iff_toNat_le.mp hc.1),
      Nat.le_trans (UInt32.le_iff_toNat_le.mp hc.2) hb⟩
  have hrange : 45 ≤ c.toNat ∧ c.toNat ≤ 122 := by
    rcases Bool.or_eq_true_iff.mp h with h | h
    · rcases Bool.or_eq_true_iff.mp h with h | h
      · rcases Bool.or_eq_true_iff.mp h with h | hdigit
        · rcases Bool.or_eq_true_iff.mp h with hupper | hlower
          · exact hbetween 'A' 'Z' (by decide) (by decide) (of_decide_eq_true hupper)
          · exact hbetween 'a' 'z' (by decide) (by decide)
              ((Bool.and_eq_true_iff.mp hlower).imp of_decide_eq_true of_decide_eq_true)
        · exact hbetween '0' '9' (by decide) (by decide)
            ((Bool.and_eq_true_iff.mp hdigit).imp of_decide_eq_true of_decide_eq_true)
      · obtain rfl := of_decide_eq_true h
        decide
    · obtain rfl := of_decide_eq_true h
      decide
  simp only [Text.isBlank, Bool.or_eq_false_iff, Bool.and_eq_false_iff, decide_eq_false_iff_not,
    beq_eq_false_iff_ne]
  omega

theorem startsStatement_of_isBlank {c : Char} (h : Text.isBlank c = true) (hspace : c ≠ ' ')
    (htab : c ≠ '\t') : startsStatement c = false := by
  rw [startsStatement, Bool.or_eq_false_iff, List.contains_eq_mem, decide_eq_false_iff_not]
  constructor
  · cases hbare : Toml.isBareChar c with
    | false => rfl
    | true =>
      rw [isBlank_of_bare hbare] at h
      cases h
  · intro hmem
    simp only [List.mem_cons, List.not_mem_nil, or_false] at hmem
    rcases hmem with rfl | rfl | rfl | rfl | rfl
    · cases h
    · cases h
    · cases h
    · exact hspace rfl
    · exact htab rfl

/-- A line that opens a bracket is blank up to it. -/
theorem exists_of_opensBracket {l : List Char} (h : opensBracket l = true) :
    ∃ w t, l = w ++ '[' :: t ∧ ∀ c ∈ w, Text.isBlank c = true := by
  rw [opensBracket, opensWith, Text.trimStart] at h
  have hsplit := List.takeWhile_append_dropWhile (p := Text.isBlank) (l := l)
  cases hdrop : l.dropWhile Text.isBlank with
  | nil =>
    rw [hdrop] at h
    cases h
  | cons c t =>
    rw [hdrop] at h hsplit
    obtain rfl : '[' = c := by simpa [List.isPrefixOf] using h
    exact ⟨_, t, hsplit.symm, List.all_eq_true.mp List.all_takeWhile⟩

/-- Behind its spaces a text whose first line opens a bracket starts with the bracket, or with a
blank that starts no statement. -/
theorem skipSpaces_of_opensBracket {text : List Char} (hne : text ≠ [])
    (h : ∀ l ∈ (lines text).head?, opensBracket l = true) :
    ∃ c t, Toml.skipSpaces text = c :: t ∧
      (c = '[' ∨ (Text.isBlank c = true ∧ c ≠ ' ' ∧ c ≠ '\t' ∧ c ≠ '\n' ∧
        ∀ t', t ≠ '\n' :: t')) := by
  obtain ⟨l, ls, hls⟩ := List.exists_cons_of_ne_nil (Text.lines_ne_nil hne)
  obtain ⟨r, rfl⟩ := Text.exists_append_of_lines hls
  have hnewline := Text.newline_not_mem_of_mem_lines (hls ▸ List.mem_cons_self : l ∈ lines (l ++ r))
  obtain ⟨w, t, rfl, hw⟩ := exists_of_opensBracket (h l (by rw [hls]; rfl))
  clear h hls hne
  rw [List.append_assoc, List.cons_append]
  induction w with
  | nil => exact ⟨'[', t ++ r, rfl, Or.inl rfl⟩
  | cons c w ih =>
    by_cases hc : c = ' ' ∨ c = '\t'
    · have hskip : Toml.skipSpaces (c :: w ++ '[' :: (t ++ r)) =
          Toml.skipSpaces (w ++ '[' :: (t ++ r)) := List.dropWhile_cons_of_pos (by simpa using hc)
      rw [hskip]
      exact ih (fun d hd => hw d (List.mem_cons_of_mem _ hd))
        fun hmem => hnewline (List.mem_cons_of_mem _ hmem)
    · refine ⟨c, w ++ '[' :: (t ++ r), List.dropWhile_cons_of_neg (by simpa using hc),
        Or.inr ⟨hw c List.mem_cons_self, fun h => hc (Or.inl h), fun h => hc (Or.inr h), ?_, ?_⟩⟩
      · rintro rfl
        exact hnewline (by simp)
      · intro t' heq
        cases w with
        | nil => exact absurd (List.head_eq_of_cons_eq heq) (by decide)
        | cons d w =>
          obtain rfl : d = '\n' := List.head_eq_of_cons_eq heq
          exact hnewline (by simp)

theorem isDefinition_of_bracket {s t : List Char} {st : Statement}
    (h : Toml.readStatement ('[' :: s) = some (st, t)) : st.isDefinition = false := by
  unfold Toml.readStatement at h
  split at h
  · obtain ⟨x, -, h⟩ := Option.bind_eq_some_iff.mp h
    obtain ⟨y, -, h⟩ := Option.bind_eq_some_iff.mp h
    obtain ⟨z, -, h⟩ := Option.bind_eq_some_iff.mp h
    obtain ⟨w, -, h⟩ := Option.bind_eq_some_iff.mp h
    cases h
    rfl
  · obtain ⟨x, -, h⟩ := Option.bind_eq_some_iff.mp h
    obtain ⟨y, -, h⟩ := Option.bind_eq_some_iff.mp h
    obtain ⟨z, -, h⟩ := Option.bind_eq_some_iff.mp h
    cases h
    rfl
  · next hne => exact absurd rfl (hne s)

/-- **No definition follows the body** where a line that opens a bracket ends it. -/
theorem isDefinition_head_of_opensBracket {after : List Char} {b : List Statement} {n : Nat}
    (h : ∀ l ∈ (lines after).head?, opensBracket l = true)
    (hread : readStatements n after = some b) : ∀ st ∈ b.head?, st.isDefinition = false := by
  cases n with
  | zero => cases hread
  | succ n =>
    by_cases hne : after = []
    · subst hne
      cases hread
      simp
    · obtain ⟨c, t, hskip, hc⟩ := skipSpaces_of_opensBracket hne h
      rcases Toml.readStatements_cases hread with
        ⟨-, rfl⟩ | ⟨e, t', he, heq, -⟩ | ⟨st, t', sts, hst, -, rfl⟩
      · simp
      · rw [hskip] at heq
        exfalso
        rcases hc with rfl | ⟨hblank, -, -, hnewline, hreturn⟩
        · cases he with
          | lineEnd he => rcases he with rfl | rfl <;> cases heq
          | comment _ _ => cases heq
        · cases he with
          | lineEnd he =>
            rcases he with rfl | rfl
            · exact hnewline (List.head_eq_of_cons_eq heq)
            · exact hreturn t' (List.tail_eq_of_cons_eq heq)
          | comment _ _ =>
            rw [List.head_eq_of_cons_eq heq] at hblank
            cases hblank
      · intro st' hst'
        obtain rfl : st = st' := Option.some.inj hst'
        rw [hskip] at hst
        rcases hc with rfl | ⟨hblank, hspace, htab, -, -⟩
        · exact isDefinition_of_bracket hst
        · rw [readStatement_eq_none (startsStatement_of_isBlank hblank hspace htab)] at hst
          cases hst

/-! ## Entries -/

theorem keyForm_writtenName {name : String}
    (h : ∀ q ∈ ['"', '\''], ¬ [q, q, q] <+: writtenName name) :
    Toml.KeyForm name.toList (writtenName name) := by
  unfold writtenName at h ⊢
  split
  · next hbare => exact .bare hbare
  · next hbare =>
    simp only [hbare, Bool.false_eq_true, if_false] at h
    exact Toml.keyForm_written fun q hq t heq => h q hq ⟨t, heq.symm⟩

section

variable {deps : Toml.Table} (hdeps : ∀ f ∈ deps, f.2.WellFormed) (hw : Writable deps)

include hdeps hw

/-- A written entry is read as the definition of its name. -/
theorem Writable.readStatement_entryLine {f : String × Toml.Value} (hf : f ∈ deps)
    {r r' : List Char} (hr : Toml.Follows r) (hrest : Toml.readLineRest r = some r') :
    Toml.readStatement (Toml.skipSpaces (entryLine f.1 f.2 ++ r)) =
      some (.definition [] f.1 f.2.standing, r') := by
  have := Toml.readStatement_written (keyForm_writtenName (hw.names f hf)) (hdeps f hf)
    (hw.depth f hf) hr hrest
  rw [String.ofList_toList] at this
  simpa [entryLine] using this

/-- Entries on lines of their own. -/
theorem Writable.readsTo_endedLines {fs : List (String × Toml.Value)} (hfs : ∀ f ∈ fs, f ∈ deps)
    (t : List Char) :
    ReadsTo (endedLines (fs.map fun f => entryLine f.1 f.2) ++ t)
      (Toml.definitionsOf (standingFields fs)) t := by
  induction fs with
  | nil => exact .refl t
  | cons f fs ih =>
    have hline : endedLines ((f :: fs).map fun f => entryLine f.1 f.2) ++ t =
        entryLine f.1 f.2 ++ '\n' :: (endedLines (fs.map fun f => entryLine f.1 f.2) ++ t) := by
      simp [endedLines]
    rw [hline]
    exact .statement
      (hw.readStatement_entryLine hdeps (hfs f List.mem_cons_self) (.newline _) rfl)
      (ih fun g hg => hfs g (List.mem_cons_of_mem _ hg))

/-- Entries at the end of a text, which need not end in a line feed. -/
theorem Writable.readsTo_joinLines {fs : List (String × Toml.Value)} (hfs : ∀ f ∈ fs, f ∈ deps)
    (hne : fs ≠ []) {ending : List Char} (hending : ending = [] ∨ ending = ['\n']) :
    ReadsTo (joinLines (fs.map fun f => entryLine f.1 f.2) ++ ending)
      (Toml.definitionsOf (standingFields fs)) [] := by
  have hfollows : Toml.Follows ending := by
    rcases hending with rfl | rfl
    · exact .nil
    · exact .newline []
  have hrest : Toml.readLineRest ending = some [] := by
    rcases hending with rfl | rfl
    · rfl
    · rfl
  have hsplit := List.dropLast_concat_getLast hne
  generalize fs.dropLast = front at hsplit
  generalize fs.getLast hne = last at hsplit
  subst hsplit
  have hlast : last ∈ deps := hfs last (by simp)
  have htext : joinLines ((front ++ [last]).map fun f => entryLine f.1 f.2) ++ ending =
      endedLines (front.map fun f => entryLine f.1 f.2) ++ (entryLine last.1 last.2 ++ ending) := by
    rw [List.map_append, joinLines_append (by simp), List.append_assoc]
    simp [joinLines, List.intercalate]
  have hdefs : Toml.definitionsOf (standingFields (front ++ [last])) =
      Toml.definitionsOf (standingFields front) ++
        [.definition [] last.1 last.2.standing] := by
    simp [Toml.definitionsOf, standingFields]
  rw [htext, hdefs]
  exact (hw.readsTo_endedLines hdeps (fun f hf => hfs f (List.mem_append_left _ hf)) _).trans
    (.statement (hw.readStatement_entryLine hdeps hlast hfollows hrest) (.refl []))

end

/-! ## Byte order marks -/

theorem skipByteOrderMark_append {s t : List Char} (h : t.head? ≠ some (Char.ofNat 0xFEFF)) :
    Toml.skipByteOrderMark (s ++ t) = Toml.skipByteOrderMark s ++ t := by
  cases s with
  | nil =>
    cases t with
    | nil => rfl
    | cons c t =>
      have hc : c ≠ Char.ofNat 0xFEFF := by simpa using h
      change (if c = _ then t else c :: t) = _
      rw [if_neg hc]
      rfl
  | cons c s =>
    change (if c = _ then s ++ t else c :: (s ++ t)) = (if c = _ then s else c :: s) ++ t
    split
    · rfl
    · rfl

theorem clean_of_skipByteOrderMark {s : List Char} (h : Toml.Clean (Toml.skipByteOrderMark s)) :
    Toml.Clean s := by
  cases s with
  | nil => exact .nil
  | cons c s =>
    by_cases hc : c = Char.ofNat 0xFEFF
    · subst hc
      exact .char (by decide) h
    · change Toml.Clean (if c = _ then s else c :: s) at h
      rwa [if_neg hc] at h

theorem relines_skipByteOrderMark {s t : List Char} (h : Toml.Relines s t) :
    Toml.Relines (Toml.skipByteOrderMark s) (Toml.skipByteOrderMark t) := by
  cases h with
  | nil => exact .nil
  | change h => exact .change h
  | keep h => exact .keep h
  | @char c u u' hc h =>
    change Toml.Relines (if c = _ then u else c :: u) (if c = _ then u' else c :: u')
    split
    · exact h
    · exact .char hc h

/-! ## The parts of a manifest -/

theorem opensBracket_of_isDependencyHeader {l : List Char} (h : isDependencyHeader l = true) :
    opensBracket l = true := by
  have hopening : "[dependencies]".toList = ['['] ++ "dependencies]".toList := by decide
  rw [isDependencyHeader, opensWith, hopening] at h
  exact List.isPrefixOf_iff_prefix.mpr
    ((List.prefix_append _ _).trans (List.isPrefixOf_iff_prefix.mp h))

section

variable {text before header body after : List Char} {a defs b : List Statement}
  (h : Cut text before header body after) (hread : ReadAs before header body after a defs b)

include h

/-- No byte order mark stands in front of the header. -/
theorem Cut.head?_header : header ≠ [] ∧
    header.head? ≠ some (Char.ofNat 0xFEFF) ∧ (unixText header).head? = header.head? := by
  obtain ⟨l, hl, hheader⟩ := h.header_line
  obtain ⟨r, rfl⟩ := Text.exists_append_of_lines hl
  obtain ⟨w, t, rfl, hw⟩ :=
    exists_of_opensBracket (opensBracket_of_isDependencyHeader hheader)
  have hunix : unixText (w ++ '[' :: t ++ r) =
      w ++ '[' :: t ++ lastLineFeed (w ++ '[' :: t ++ r) := by
    rw [unixText, hl]
    simp [joinLines, List.intercalate]
  rw [hunix]
  cases w with
  | nil => exact ⟨by simp, by simp, rfl⟩
  | cons c w =>
    refine ⟨by simp, ?_, rfl⟩
    intro heq
    obtain rfl : c = Char.ofNat 0xFEFF := Option.some.inj heq
    have := hw _ List.mem_cons_self
    revert this
    decide

include hread

/-- The statements of the manifest. -/
theorem ReadAs.readStatements_text {k : Nat} (hk : (Toml.skipByteOrderMark text).length < k) :
    readStatements k (Toml.skipByteOrderMark text) =
      some (a ++ .header [] "dependencies" :: (defs ++ b)) := by
  have hafter : ∀ k, after.length < k → readStatements k after = some b :=
    (Toml.readStatements_relines hread.after).2 after (Toml.readStatements_relines hread.after).1
  have htext := hread.before.trans (hread.header.trans hread.body)
  rw [← h.parts] at htext
  have := htext.back hafter hk
  simpa using this

/-- Behind the parts in front of the body the reader comes to what stands there, with any line
endings and whatever it is. -/
theorem ReadAs.readsTo_unixText (hdefs : defs ≠ []) (r : List Char) :
    ReadsTo (Toml.skipByteOrderMark (unixText before ++ (unixText header ++ r)))
      (a ++ [.header [] "dependencies"]) r := by
  obtain ⟨hne, hmark, hunix⟩ := h.head?_header
  have hrest : body ++ after ≠ [] := by
    intro heq
    obtain ⟨rfl, rfl⟩ := List.append_eq_nil_iff.mp heq
    cases hread.body with
    | refl _ => exact hdefs rfl
    | blank he heq _ => 
      have := he.length_pos
      have := congrArg List.length heq
      simp [Toml.skipSpaces] at this
      omega
    | statement hst _ => cases hst
  have hmarkless : ∀ t, (header ++ t).head? ≠ some (Char.ofNat 0xFEFF) := by
    intro t
    obtain ⟨c, u, rfl⟩ := List.exists_cons_of_ne_nil hne
    exact hmark
  have hmarkless' : ∀ t, (unixText header ++ t).head? ≠ some (Char.ofNat 0xFEFF) := by
    intro t
    rw [List.head?_append, hunix]
    obtain ⟨c, u, rfl⟩ := List.exists_cons_of_ne_nil hne
    exact hmark
  obtain ⟨u, hu, huclean, -, hbefore⟩ := hread.before.frame
  rw [skipByteOrderMark_append (hmarkless _)] at hu
  obtain rfl := List.append_cancel_right hu
  obtain ⟨v, hv, hvclean, -, hheader⟩ := hread.header.frame
  obtain rfl := List.append_cancel_right hv
  rw [skipByteOrderMark_append (hmarkless' _)]
  exact (hbefore _ _
      (relines_skipByteOrderMark (relines_unixText (clean_of_skipByteOrderMark huclean)))
      fun heq => absurd (List.append_eq_nil_iff.mp heq).1 hne).trans
    (hheader _ _ (relines_unixText hvclean) fun heq => absurd heq hrest)

/-- **The statements of the rewritten manifest** are those of the manifest, with those of the
entries in the place of those of the body. -/
theorem ReadAs.readStatements_rewritten (hdefs : defs ≠ []) {deps : Toml.Table}
    (hdeps : ∀ f ∈ deps, f.2.WellFormed) (hw : Writable deps)
    {fs : List (String × Toml.Value)} (hfs : ∀ f ∈ fs, f ∈ deps) (hne : fs ≠ [])
    {ls : List (List Char)}
    (hls : replaceBody (lines text) (fs.map fun f => entryLine f.1 f.2) = some ls) {k : Nat}
    (hk : (Toml.skipByteOrderMark (joinLines ls ++ lastLineFeed text)).length < k) :
    readStatements k (Toml.skipByteOrderMark (joinLines ls ++ lastLineFeed text)) =
      some (a ++ .header [] "dependencies" ::
        (Toml.definitionsOf (standingFields fs) ++ b)) := by
  rw [h.replaceBody_eq] at hls
  obtain rfl := Option.some.inj hls
  rw [h.rewritten_eq (by simpa using hne)] at hk ⊢
  obtain ⟨hclean, hafter⟩ := Toml.readStatements_relines hread.after
  by_cases hnil : after = []
  · subst hnil
    rw [if_pos rfl] at hk ⊢
    have hending : lastLineFeed text = [] ∨ lastLineFeed text = ['\n'] := by
      unfold lastLineFeed
      split
      · exact Or.inr rfl
      · exact Or.inl rfl
    have hlast := (hread.readsTo_unixText h hdefs _).trans
      (hw.readsTo_joinLines hdeps hfs hne hending)
    have := hlast.back (hafter [] .nil) hk
    simpa using this
  · rw [if_neg hnil] at hk ⊢
    have hlast := (hread.readsTo_unixText h hdefs _).trans
      ((hw.readsTo_endedLines hdeps hfs ('\n' :: unixText after)).trans
        (.blank (.lineEnd (Or.inl rfl)) rfl (.refl (unixText after))))
    have := hlast.back (hafter _ (relines_unixText hclean)) hk
    simpa using this

end

/-! ## The document -/

/-- No two dependencies of a document have the same name. -/
theorem nodup_dependencies {text : List Char} {doc deps : Toml.Table}
    (hdoc : Toml.parseWithDateTimes? text = some doc)
    (hdeps : doc.get? "dependencies" = some (.table deps)) : (deps.map Prod.fst).Nodup := by
  obtain ⟨raw, hraw, hdates⟩ := Option.bind_eq_some_iff.mp hdoc
  obtain ⟨v, hv, hvdeps⟩ := Toml.get?_of_fieldsWithDateTimes? hdates hdeps
  have hwell := ((Toml.parse?_wellFormed hraw).of_get? hv).withDateTimes? hvdeps
  cases hwell.1 with
  | table hnodup _ => exact hnodup

/-- The table behind the dependencies of a document, and what can be said of their values. -/
theorem table_of_dependencies {raw doc deps : Toml.Table} (hraw : Toml.Value.WellFormed (.table raw))
    (hdoc : Toml.fieldsWithDateTimes? raw = some doc) {fs : Toml.Table}
    (hfs : raw.get? "dependencies" = some (.table fs))
    (hdeps : doc.get? "dependencies" = some (.table deps)) :
    (deps.map Prod.fst).Nodup ∧
      ∀ f ∈ deps, f.2.WellFormed ∧ f.2.standing.withDateTimes? = some f.2 := by
  obtain ⟨v, hv, hvdeps⟩ := Toml.get?_of_fieldsWithDateTimes? hdoc hdeps
  obtain rfl := Option.some.inj (hfs.symm.trans hv)
  cases hraw.of_get? hfs with
  | table hkeys hwell =>
    rcases Toml.table_withDateTimes?_cases hvdeps with ⟨s, d, -, heq⟩ | ⟨gs, hgs, heq, -⟩
    · cases heq
    · cases heq
      refine ⟨by rwa [Toml.map_fst_fieldsWithDateTimes? hgs], fun f hf => ?_⟩
      obtain ⟨g, hg, -, hgf⟩ := Toml.mem_of_fieldsWithDateTimes? hgs f hf
      obtain ⟨hwf, hself⟩ := (hwell g hg).withDateTimes? hgf
      exact ⟨hwf, hwf.standing_withDateTimes? hself⟩

/-- Definitions of different names fill a table with their values. -/
theorem defineAll_standingFields {fs : List (String × Toml.Value)} (h : (fs.map Prod.fst).Nodup) :
    ∃ c, Toml.defineAll (Toml.definitionsOf (standingFields fs)) {} = some c ∧
      c.entry.toValue = .table (standingFields fs) := by
  have hdefine := Toml.defineAll_definitionsOf (c := {})
    ((map_fst_standingFields fs).symm ▸ h) (fun _ _ => rfl) rfl
  refine ⟨_, hdefine, ?_⟩
  rw [Toml.Section.entry, Toml.Entry.toValue, Toml.finishFields_eq_map, List.nil_append,
    List.map_map]
  refine congrArg _ ((List.map_congr_left fun f _ => ?_).trans (List.map_id _))
  rw [Function.comp_apply, Toml.Entry.toValue]
  rfl

/-- **The document of the rewritten manifest** is that of the manifest with its dependencies in
sorted order. -/
theorem ReadAs.parseWithDateTimes?_rewritten {text before header body after : List Char}
    {a defs b : List Statement} (hcut : Cut text before header body after)
    (hread : ReadAs before header body after a defs b) {doc deps : Toml.Table}
    (hdoc : Toml.parseWithDateTimes? text = some doc)
    (hdeps : doc.get? "dependencies" = some (.table deps)) (hw : Writable deps) (hne : deps ≠ [])
    {ls : List (List Char)} (hls : replaceBody (lines text) (entryLines deps) = some ls) :
    (deps.map Prod.fst).Nodup ∧
    Toml.parseWithDateTimes? (joinLines ls ++ lastLineFeed text) =
      some (doc.set "dependencies" (.table (sortedTable deps))) := by
  obtain ⟨raw, hraw, hdates⟩ := Option.bind_eq_some_iff.mp hdoc
  have hwell := Toml.parse?_wellFormed hraw
  obtain ⟨sts, hsts, hrun⟩ := Option.bind_eq_some_iff.mp hraw
  obtain ⟨root, hroot, hfinish⟩ := Option.bind_eq_some_iff.mp hrun
  obtain rfl := Option.some.inj hfinish
  rw [hread.readStatements_text hcut (Nat.lt_succ_self _)] at hsts
  obtain rfl := Option.some.inj hsts
  obtain ⟨c, hc, hget, hexchange⟩ := Toml.runStatements_exchange hread.before_apart
    hread.body_defines hread.after_apart
    (isDefinition_head_of_opensBracket hcut.after_line hread.after) hroot
  have hfs : root.toTable.get? "dependencies" = some (.table c.toTable) := by
    rw [Toml.get?_toTable, hget, Option.map_some, Toml.Section.entry, Toml.Entry.toValue]
    rfl
  obtain ⟨hnodup, hvalues⟩ := table_of_dependencies hwell hdates hfs hdeps
  refine ⟨hnodup, ?_⟩
  have hperm := sortedTable_perm hnodup
  have hmem : ∀ f ∈ sortedTable deps, f ∈ deps := fun f hf => hperm.mem_iff.mp hf
  have hdefs : defs ≠ [] := by
    rintro rfl
    obtain rfl := Option.some.inj hc
    obtain ⟨v, hv, hvdeps⟩ := Toml.get?_of_fieldsWithDateTimes? hdates hdeps
    rw [hfs] at hv
    obtain rfl := Option.some.inj hv
    cases hvdeps
    exact hne rfl
  rw [entryLines_eq_map] at hls
  have hentries := hread.readStatements_rewritten hcut hdefs (fun f hf => (hvalues f hf).1) hw hmem
    (fun heq => hne (by simpa [heq] using hperm.symm)) hls (Nat.lt_succ_self _)
  obtain ⟨c', hc', hvalue⟩ :=
    defineAll_standingFields ((hperm.map Prod.fst).nodup_iff.mpr hnodup)
  have hdefines : ∀ st ∈ Toml.definitionsOf (standingFields (sortedTable deps)),
      st.isDefinition = true := by
    intro st hst
    obtain ⟨f, -, rfl⟩ := List.mem_map.mp hst
    rfl
  have hparse : Toml.parse? (joinLines ls ++ lastLineFeed text) =
      some (root.toTable.set "dependencies" (.table (standingFields (sortedTable deps)))) := by
    rw [Toml.parse?, hentries]
    change (Toml.runStatements _ [] {}).bind _ = _
    rw [hexchange _ c' hdefines hc', Option.bind_some, Toml.toTable_replace, hvalue]
  rw [Toml.parseWithDateTimes?, hparse]
  refine Toml.fieldsWithDateTimes?_set hdates (Toml.table_withDateTimes?
    (Toml.fieldsWithDateTimes?_map fun f hf => (hvalues f (hmem f hf)).2) ?_)
  have hkeys : (sortedTable deps).map Prod.fst = sortedNames deps.keys := keys_sortedTable hnodup
  rw [map_fst_standingFields, hkeys]
  exact hw.first

end ValidatorKeys.Manifest
