import Mathlib
import ValidatorKeys.Key.SeedLine
import ValidatorKeys.Proofs.Text.Pieces

/-!
# The seed line of an output

The seed line is the first line that opens with the label once it is trimmed.  The label is eleven
letters and as many bytes, and only letters of one byte are the same as its own but for case; so the
test may as well be made on the first eleven bytes of a line, and fails where a longer character
stands across their end.  Blanks around the lines and the kind of their endings make no difference.

    find output = some l  ↔  FirstLabelled output l
    hasLabel line         =  hasLabelInBytes line
    find t                =  find s        for an s with blanks around its lines or other endings
-/

namespace ValidatorKeys.SeedLine

open Text (Padded ReturnsAdded allBlank isBlank lines splitAt trim trimmedPieces)
open String (utf8Len)

/-! ## Definitions -/

/-- A character and a small letter that is the same but for case. -/
def SameLetter (c d : Char) : Prop := c = d ∨ c = d.toUpper

/-- A line that opens with the label, each of its letters small or capital. -/
def SpellsLabel (line : List Char) : Prop :=
  ∃ head rest, line = head ++ rest ∧ List.Forall₂ SameLetter head label

/-- A trimmed line that opens with the label, and the first one that does. -/
def FirstLabelled (output l : List Char) : Prop :=
  ∃ before line after, splitAt '\n' output = before ++ line :: after ∧
    (∀ m ∈ before, ¬SpellsLabel (trim m)) ∧ SpellsLabel (trim line) ∧ l = trim line

/-- The first `n` bytes of a text, if a character ends with them. -/
def firstBytes? : Nat → List Char → Option (List Char)
  | 0, _ => some []
  | _ + 1, [] => none
  | n + 1, c :: r =>
    if c.utf8Size ≤ n + 1 then (firstBytes? (n + 1 - c.utf8Size) r).map (c :: ·) else none

/-- The test for the label, made on as many bytes of the line as the label has. -/
def hasLabelInBytes (line : List Char) : Bool :=
  (firstBytes? (utf8Len label) line).any fun head =>
    head.map Char.toLower == label.map Char.toLower

/-! ## Letters -/

theorem toLower_eq_iff {c d : Char} (hd : d.toLower = d) : c.toLower = d ↔ SameLetter c d := by
  constructor
  · rintro rfl
    by_cases hc : c.isUpper = true
    · right
      rw [Char.toUpper_toLower_eq_toUpper,
        Char.toUpper_eq_of_not_isLower (Char.not_isLower_of_isUpper hc)]
    · exact .inl (Char.toLower_eq_of_not_isUpper hc).symm
  · rintro (rfl | rfl)
    · exact hd
    · rw [Char.toLower_toUpper_eq_toLower, hd]

theorem map_toLower_eq_iff {ds : List Char} (hds : ∀ d ∈ ds, d.toLower = d) (cs : List Char) :
    cs.map Char.toLower = ds ↔ List.Forall₂ SameLetter cs ds := by
  induction ds generalizing cs with
  | nil => rw [List.map_eq_nil_iff, List.forall₂_nil_right_iff]
  | cons d ds ih =>
    rw [List.forall_mem_cons] at hds
    cases cs with
    | nil => simp
    | cons c cs =>
      rw [List.map_cons, List.cons.injEq, List.forall₂_cons, toLower_eq_iff hds.1, ih hds.2]

theorem map_toLower_label : label.map Char.toLower = label := by decide

theorem toLower_of_mem_label {d : Char} (hd : d ∈ label) : d.toLower = d := by
  rw [← map_toLower_label] at hd
  obtain ⟨c, -, rfl⟩ := List.mem_map.mp hd
  exact Char.toLower_toLower_eq_toLower c

theorem hasLabel_iff (line : List Char) : hasLabel line = true ↔ SpellsLabel line := by
  rw [hasLabel, beq_iff_eq, map_toLower_eq_iff fun _ => toLower_of_mem_label]
  constructor
  · exact fun h => ⟨line.take 11, line.drop 11, (List.take_append_drop 11 line).symm, h⟩
  · rintro ⟨head, rest, rfl, h⟩
    have hlength : head.length = 11 := h.length_eq
    rwa [List.take_left' hlength]

/-! ## Bytes -/

theorem firstBytes?_eq_some_iff {n : Nat} {s p : List Char} :
    firstBytes? n s = some p ↔ p <+: s ∧ utf8Len p = n := by
  fun_induction firstBytes? n s generalizing p with
  | case1 s =>
    constructor
    · rintro ⟨⟩
      exact ⟨List.nil_prefix, rfl⟩
    · rintro ⟨-, hlen⟩
      rw [String.utf8Len_eq_zero.mp hlen]
  | case2 n =>
    refine ⟨nofun, ?_⟩
    rintro ⟨hp, hlen⟩
    rw [List.prefix_nil.mp hp] at hlen
    cases hlen
  | case3 n c r hc ih =>
    rw [Option.map_eq_some_iff]
    constructor
    · rintro ⟨q, hq, rfl⟩
      obtain ⟨hq, hlen⟩ := ih.mp hq
      refine ⟨List.cons_prefix_cons.mpr ⟨rfl, hq⟩, ?_⟩
      rw [String.utf8Len_cons, hlen, Nat.sub_add_cancel hc]
    · rintro ⟨hp, hlen⟩
      rcases List.prefix_cons_iff.mp hp with rfl | ⟨q, rfl, hq⟩
      · cases hlen
      · rw [String.utf8Len_cons] at hlen
        exact ⟨q, ih.mpr ⟨hq, by omega⟩, rfl⟩
  | case4 n c r hc =>
    refine ⟨nofun, ?_⟩
    rintro ⟨hp, hlen⟩
    rcases List.prefix_cons_iff.mp hp with rfl | ⟨q, rfl, -⟩
    · cases hlen
    · rw [String.utf8Len_cons] at hlen
      omega

/-- **A character across the end of the bytes** leaves no text in front of it. -/
theorem firstBytes?_eq_none {n : Nat} {head : List Char} {c : Char} (rest : List Char)
    (hhead : utf8Len head < n) (hc : n < utf8Len (head ++ [c])) :
    firstBytes? n (head ++ c :: rest) = none := by
  rw [Option.eq_none_iff_forall_ne_some]
  intro p hp
  obtain ⟨hp, hlen⟩ := firstBytes?_eq_some_iff.mp hp
  have hnext : head ++ [c] <+: head ++ c :: rest := ⟨rest, by simp⟩
  -- a shorter front ends before the character and a longer one behind it
  rcases List.prefix_or_prefix_of_prefix hp hnext with h | h
  · rcases List.prefix_concat_iff.mp h with rfl | h
    · omega
    · have := String.utf8Len_le_of_prefix h
      omega
  · have := String.utf8Len_le_of_prefix h
    omega

theorem utf8Size_toLower (c : Char) : c.toLower.utf8Size = c.utf8Size := by
  by_cases hc : c.isUpper = true
  · have hsize : c.utf8Size = 1 ∧ c.toLower.utf8Size = 1 := by
      simp only [Char.utf8Size_eq_one_iff, Char.toLower, Char.isUpper] at hc ⊢
      grind
    rw [hsize.1, hsize.2]
  · rw [Char.toLower_eq_of_not_isUpper hc]

theorem utf8Len_map_toLower (s : List Char) : utf8Len (s.map Char.toLower) = utf8Len s := by
  induction s with
  | nil => rfl
  | cons c s ih =>
    rw [List.map_cons, String.utf8Len_cons, String.utf8Len_cons, utf8Size_toLower, ih]

/-- **The test on the bytes** is the test on the characters. -/
theorem hasLabelInBytes_eq (line : List Char) : hasLabelInBytes line = hasLabel line := by
  rw [Bool.eq_iff_iff, hasLabelInBytes, hasLabel, Option.any_eq_true, beq_iff_eq,
    map_toLower_label]
  constructor
  · rintro ⟨head, hhead, heq⟩
    rw [beq_iff_eq] at heq
    obtain ⟨⟨rest, rfl⟩, -⟩ := firstBytes?_eq_some_iff.mp hhead
    have hlength : head.length = 11 := by
      rw [← List.length_map (f := Char.toLower), heq]
      rfl
    rw [List.take_left' hlength, heq]
  · intro heq
    refine ⟨line.take 11, firstBytes?_eq_some_iff.mpr ⟨List.take_prefix 11 line, ?_⟩,
      beq_iff_eq.mpr heq⟩
    rw [← utf8Len_map_toLower, heq]

theorem not_spellsLabel_of_firstBytes? {line : List Char} (h : firstBytes? 11 line = none) :
    ¬SpellsLabel line := by
  have hbytes : utf8Len label = 11 := by decide
  rw [← hasLabel_iff, ← hasLabelInBytes_eq, hasLabelInBytes, hbytes, h]
  exact Bool.false_ne_true

/-! ## Searching -/

theorem find_eq (output : List Char) : find output = (trimmedPieces output).find? hasLabel :=
  Text.find?_lines rfl output

theorem find_eq_some_iff (output l : List Char) :
    find output = some l ↔ FirstLabelled output l := by
  rw [find_eq, trimmedPieces, List.find?_map, Option.map_eq_some_iff]
  constructor
  · rintro ⟨line, hline, rfl⟩
    obtain ⟨hlabel, before, after, hsplit, hbefore⟩ := List.find?_eq_some_iff_append.mp hline
    refine ⟨before, line, after, hsplit, fun m hm => ?_, (hasLabel_iff _).mp hlabel, rfl⟩
    rw [← hasLabel_iff]
    simpa using hbefore m hm
  · rintro ⟨before, line, after, hsplit, hbefore, hlabel, rfl⟩
    refine ⟨line, List.find?_eq_some_iff_append.mpr
      ⟨(hasLabel_iff _).mpr hlabel, before, after, hsplit, fun m hm => ?_⟩, rfl⟩
    have := hbefore m hm
    rw [← hasLabel_iff] at this
    simpa using this

theorem exists_find_iff (output : List Char) :
    (∃ l, find output = some l) ↔ ∃ line ∈ splitAt '\n' output, SpellsLabel (trim line) := by
  rw [← Option.isSome_iff_exists, find_eq, trimmedPieces, List.find?_isSome]
  simp only [List.mem_map, exists_exists_and_eq_and, hasLabel_iff]

theorem find_bare {output l : List Char} (h : find output = some l) :
    '\n' ∉ l ∧ (∀ c ∈ l.head?, isBlank c = false) ∧ ∀ c ∈ l.getLast?, isBlank c = false := by
  obtain ⟨before, line, after, hsplit, -, -, rfl⟩ := (find_eq_some_iff output l).mp h
  have hline : line ∈ splitAt '\n' output := by simp [hsplit]
  exact ⟨fun hmem => Text.sep_not_mem_of_mem_splitAt hline (Text.mem_of_mem_trim hmem),
    Text.isBlank_head?_trim line, Text.isBlank_getLast?_trim line⟩

theorem find_bytes (output : List Char) :
    find output = ((lines output).map trim).find? hasLabelInBytes := by
  rw [find, funext hasLabelInBytes_eq]

/-- Only the trimmed pieces of an output are looked at. -/
theorem find_congr {s t : List Char} (h : trimmedPieces t = trimmedPieces s) :
    find t = find s := by
  rw [find_eq, find_eq, h]

/-! ## Top theorem -/

/-- **The seed line is the first line that opens with the label**, trimmed, whatever the layout of
the output.  There is one exactly when some line opens with the label; it goes over no line feed and
no blank stands at its ends; the search by bytes finds the same, and a character that stands across
the eleventh byte is neither cut nor part of a label.  Blanks around any of the lines and carriage
returns in front of any of the line feeds change nothing. -/
theorem find_first_labelled (output : List Char) :
    (∀ l, find output = some l ↔ FirstLabelled output l) ∧
      ((∃ l, find output = some l) ↔ ∃ line ∈ splitAt '\n' output, SpellsLabel (trim line)) ∧
      (∀ l, find output = some l → '\n' ∉ l ∧ (∀ c ∈ l.head?, isBlank c = false) ∧
        ∀ c ∈ l.getLast?, isBlank c = false) ∧
      find output = ((lines output).map trim).find? hasLabelInBytes ∧
      (∀ (head : List Char) (c : Char) (rest : List Char), utf8Len head < 11 →
        11 < utf8Len (head ++ [c]) → firstBytes? 11 (head ++ c :: rest) = none ∧
          ¬SpellsLabel (head ++ c :: rest)) ∧
      (∀ ms, List.Forall₂ Padded (splitAt '\n' output) ms →
        find (List.intercalate ['\n'] ms) = find output) ∧
      ∀ t, ReturnsAdded output t → find t = find output := by
  refine ⟨find_eq_some_iff output, exists_find_iff output, fun l hl => find_bare hl,
    find_bytes output, fun head c rest hhead hc => ?_, fun ms hms => ?_, fun t ht => ?_⟩
  · have hnone := firstBytes?_eq_none rest hhead hc
    exact ⟨hnone, not_spellsLabel_of_firstBytes? hnone⟩
  · exact find_congr (Text.trimmedPieces_of_padded hms)
  · exact find_congr (Text.trimmedPieces_of_returnsAdded ht)

/-- An output of three lines, its second line padded, its first line feed behind a carriage return,
and a line with a character across its eleventh byte. -/
theorem find_first_labelled_three_lines :
    let key := "key:".toList
    let seed := "Secret SEED: 0xab".toList
    let other := "secret seed: 0xcd".toList
    let output := key ++ '\n' :: (seed ++ '\n' :: other)
    find output = some seed ∧
      find (List.intercalate ['\n'] [key, ['\u3000'] ++ seed ++ ['\t', ' '], other]) =
        find output ∧
      find (key ++ '\r' :: '\n' :: (seed ++ '\n' :: other)) = find output ∧
      ¬SpellsLabel ("secret see".toList ++ 'é' :: other) := by
  intro key seed other output
  obtain ⟨hfind, -, -, -, hacross, hpadded, hreturns⟩ := find_first_labelled output
  have hsplit : splitAt '\n' output = [key, seed, other] := by decide
  have hmargin : Text.Margin ['\u3000'] ∧ Text.Margin ['\t', ' '] :=
    ⟨⟨by decide, by decide⟩, ⟨by decide, by decide⟩⟩
  refine ⟨(hfind seed).mpr ⟨[key], seed, [other], hsplit, ?_, (hasLabel_iff _).mp (by decide),
    by decide⟩, hpadded _ ?_, hreturns _ ?_, (hacross _ _ _ (by decide) (by decide)).2⟩
  · simp only [List.forall_mem_singleton, ← hasLabel_iff]
    decide
  · rw [hsplit]
    exact .cons (.refl key) (.cons (.intro hmargin.1 hmargin.2 seed) (.cons (.refl other) .nil))
  · exact .keep 'k' (.keep 'e' (.keep 'y' (.keep ':' (.turn (.refl _)))))

end ValidatorKeys.SeedLine
