import Mathlib.Order.WellFounded
import ValidatorKeys.Proofs.KeyFile.Records
import ValidatorKeys.Proofs.Text.Words

/-!
# The token of a line

The token of a line is the first of its words that starts with `0x` and goes on.  It can be told
without the splitting into words: of all the places where such a piece of the line stands with
nothing but blanks next to it, it is at the one with the shortest front.

    (extract line).map text = some t  ↔  FirstTokenAt line t
    extract line = none               ↔  no token stands in the line
    extract (name ++ ": " ++ line)    =  extract line               for the name of a scheme
-/

namespace ValidatorKeys.Token

open Text (WordAt words)

/-! ## Definitions -/

/-- A line is `a`, the text `t` of a token and `b`, with blanks next to the token or nothing. -/
structure TokenAt (line a t b : List Char) : Prop extends WordAt line a t b where
  opens : ∃ c r, t = '0' :: 'x' :: c :: r

/-- A token stands in a line, and none with a shorter front. -/
def FirstTokenAt (line t : List Char) : Prop :=
  ∃ a b, TokenAt line a t b ∧ ∀ a' t' b', TokenAt line a' t' b' → a.length ≤ a'.length

/-! ## Texts of tokens -/

theorem isTokenText_iff (t : List Char) :
    isTokenText t = true ↔ ∃ c r, t = '0' :: 'x' :: c :: r := by
  unfold isTokenText
  split
  · next c r => exact iff_of_true rfl ⟨c, r, rfl⟩
  · next h =>
    refine iff_of_false Bool.false_ne_true ?_
    rintro ⟨c, r, rfl⟩
    exact h c r rfl

theorem map_text_ofText? (t : List Char) :
    (ofText? t).map text = if isTokenText t then some t else none := by
  unfold ofText?
  split <;> rfl

theorem map_text_extract (line : List Char) :
    (extract line).map text = (words line).find? isTokenText := by
  unfold extract
  induction words line with
  | nil => rfl
  | cons w ws ih =>
    rw [List.findSome?_cons, List.find?_cons]
    have hw := map_text_ofText? w
    cases ht : isTokenText w with
    | true =>
      rw [ht, if_pos rfl] at hw
      obtain ⟨t, ht, rfl⟩ := Option.map_eq_some_iff.mp hw
      rw [ht, Option.map_some]
    | false =>
      rw [ht, if_neg Bool.false_ne_true, Option.map_eq_none_iff] at hw
      rw [hw, ih]

/-! ## Standing tokens -/

theorem tokenAt_iff {line a t b : List Char} :
    TokenAt line a t b ↔ WordAt line a t b ∧ isTokenText t = true := by
  rw [isTokenText_iff]
  constructor
  · exact fun h => ⟨h.toWordAt, h.opens⟩
  · exact fun h => ⟨h.1, h.2⟩

theorem exists_tokenAt_iff (line : List Char) :
    (∃ a t b, TokenAt line a t b) ↔ ∃ t ∈ words line, isTokenText t = true := by
  constructor
  · rintro ⟨a, t, b, h⟩
    exact ⟨t, h.mem_words, (isTokenText_iff t).mpr h.opens⟩
  · rintro ⟨t, ht, htoken⟩
    obtain ⟨a, b, h⟩ := Text.mem_words_iff.mp ht
    exact ⟨a, t, b, tokenAt_iff.mpr ⟨h, htoken⟩⟩

/-- No token is among the words in front of the first one. -/
theorem find?_words_of_first {line t : List Char} (h : FirstTokenAt line t) :
    (words line).find? isTokenText = some t := by
  obtain ⟨a, b, hat, hfirst⟩ := h
  obtain ⟨hword, htoken⟩ := tokenAt_iff.mp hat
  refine List.find?_eq_some_iff_append.mpr
    ⟨htoken, words a, words b, hword.words_eq, fun t' ht' => ?_⟩
  rw [Bool.not_eq_true']
  refine eq_false_of_ne_true fun htoken' => ?_
  -- a token in front of the first one would stand in the line as well, with a shorter front
  obtain ⟨a', b', hword'⟩ := Text.mem_words_iff.mp ht'
  have hne := hword'.rest_ne_nil hword.before
  have hall := hword'.append_right (t ++ b) fun hb' => absurd hb' hne
  rw [← List.append_assoc, ← hword.text_eq] at hall
  have hle := hfirst _ _ _ (tokenAt_iff.mpr ⟨hall, htoken'⟩)
  have hpos := List.length_pos_of_ne_nil hword'.ne_nil
  have hlength := congrArg List.length hword'.text_eq
  simp only [List.length_append] at hlength
  omega

theorem exists_first {line : List Char} (h : ∃ a t b, TokenAt line a t b) :
    ∃ t, FirstTokenAt line t := by
  obtain ⟨a, hat, hmin⟩ :=
    (measure List.length).wf.has_min {a | ∃ t b, TokenAt line a t b} h
  obtain ⟨t, b, hat⟩ := hat
  exact ⟨t, a, b, hat, fun a' t' b' h' => not_lt.mp (hmin a' ⟨t', b', h'⟩)⟩

theorem map_text_extract_eq_some_iff (line t : List Char) :
    (extract line).map text = some t ↔ FirstTokenAt line t := by
  rw [map_text_extract]
  constructor
  · intro h
    have hmem := List.mem_of_find?_eq_some h
    have htoken := List.find?_some h
    obtain ⟨t', ht'⟩ := exists_first ((exists_tokenAt_iff line).mpr ⟨t, hmem, htoken⟩)
    -- the one that stands first is found, so it is the one that was found
    rw [find?_words_of_first ht', Option.some.injEq] at h
    exact h ▸ ht'
  · exact find?_words_of_first

theorem extract_eq_none_iff (line : List Char) :
    extract line = none ↔ ¬∃ a t b, TokenAt line a t b := by
  rw [← Option.map_eq_none_iff (f := text), map_text_extract, exists_tokenAt_iff,
    List.find?_eq_none]
  simp

/-! ## Top theorem -/

/-- **The token of a line is the first that stands in it**: `0x` and more without a blank, between
blanks or the ends of the line, with the shortest front.  There is none exactly when none stands
there, and the name of a scheme in front of a line changes nothing. -/
theorem extract_iff_first (line : List Char) :
    (∀ t, (extract line).map text = some t ↔ FirstTokenAt line t) ∧
      (extract line = none ↔ ¬∃ a t b, TokenAt line a t b) ∧
      ∀ s : Scheme, extract (s.name.toList ++ ": ".toList ++ line) = extract line := by
  refine ⟨map_text_extract_eq_some_iff line, extract_eq_none_iff line, fun s => ?_⟩
  have hline : s.name.toList ++ ": ".toList ++ line = (Record.mk s line).line := by
    rw [Record.line, Scheme.label]
    simp
  rw [hline, Record.extract_line]

example : (extract "a0xa 0x\u30000xé\t0xb".toList).map text = some "0xé".toList := by
  decide +kernel

end ValidatorKeys.Token
