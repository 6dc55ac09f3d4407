import Mathlib.Data.List.TakeWhile
import ValidatorKeys.Manifest.Sorting
import ValidatorKeys.Proofs.Text.Lines
import ValidatorKeys.Proofs.Toml.Framing.Basic

/-!
# The lines of a manifest

A manifest is taken apart into lines and put together again with line feeds between them.  What was
not replaced comes out as it was, but for its line endings.

    Relines text (joinLines (lines text) ++ lastLineFeed text)
-/

namespace ValidatorKeys.Manifest

open Text (lines)

/-! ## Definitions -/

def lastLineFeed (text : List Char) : List Char := if text.getLast? = some '\n' then ['\n'] else []

/-- The text with line feeds as its line endings. -/
def unixText (text : List Char) : List Char := joinLines (lines text) ++ lastLineFeed text

def endedLines (ls : List (List Char)) : List Char := ls.flatMap fun l => l ++ ['\n']

/-- A text that is made of whole lines. -/
def WholeLines (text : List Char) : Prop := text = [] ∨ text.getLast? = some '\n'

/-! ## Joining -/

theorem joinLines_cons {l : List Char} {ls : List (List Char)} (h : ls ≠ []) :
    joinLines (l :: ls) = l ++ '\n' :: joinLines ls := by
  obtain ⟨m, ms, rfl⟩ := List.exists_cons_of_ne_nil h
  rw [joinLines, List.intercalate_cons_cons, List.append_assoc]
  rfl

theorem joinLines_append {ls ms : List (List Char)} (h : ms ≠ []) :
    joinLines (ls ++ ms) = endedLines ls ++ joinLines ms := by
  induction ls with
  | nil => rfl
  | cons l ls ih =>
    rw [List.cons_append, joinLines_cons (by simp [h]), ih]
    simp [endedLines]

theorem joinLines_lineFeed {ls : List (List Char)} (h : ls ≠ []) :
    joinLines ls ++ ['\n'] = endedLines ls := by
  have hsplit := List.dropLast_concat_getLast h
  generalize ls.dropLast = front at hsplit
  generalize ls.getLast h = last at hsplit
  subst hsplit
  rw [joinLines_append (by simp)]
  simp [endedLines, joinLines, List.intercalate]

theorem lastLineFeed_cons {c : Char} {text : List Char} (h : text ≠ []) :
    lastLineFeed (c :: text) = lastLineFeed text := by
  rw [lastLineFeed, lastLineFeed, List.getLast?_cons_of_ne_nil h]

theorem unixText_newline (r : List Char) :
    joinLines ([] :: lines r) ++ lastLineFeed ('\n' :: r) = '\n' :: unixText r := by
  by_cases h : r = []
  · subst h
    rfl
  · rw [joinLines_cons (Text.lines_ne_nil h), lastLineFeed_cons h]
    rfl

theorem joinLines_cons_cons (c : Char) (l : List Char) (ls : List (List Char)) :
    joinLines ((c :: l) :: ls) = c :: joinLines (l :: ls) := by
  cases ls with
  | nil => simp [joinLines, List.intercalate]
  | cons m ms =>
    rw [joinLines_cons (List.cons_ne_nil m ms), joinLines_cons (List.cons_ne_nil m ms),
      List.cons_append]

/-- **Taking a text apart and joining its lines** changes nothing but line endings. -/
theorem relines_unixText {text : List Char} (h : Toml.Clean text) :
    Toml.Relines text (unixText text) := by
  fun_induction Text.lines text with
  | case1 => exact .nil
  | case2 r ih =>
    obtain ⟨r', heq, hr⟩ := h.cons_inv (by decide)
    cases heq
    rw [unixText, Text.lines_newline, unixText_newline]
    exact .char (by decide) (ih hr)
  | case3 r ih =>
    have hr : Toml.Clean r := by
      cases h with
      | keep hr => exact hr
      | char hc _ => exact absurd rfl hc
    have hlines : lines ('\r' :: '\n' :: r) = [] :: lines r := by rw [lines]
    rw [unixText, hlines, lastLineFeed_cons (by simp), unixText_newline]
    exact .change (ih hr)
  | case4 c r hn hr heq ih =>
    obtain rfl := Text.lines_eq_nil heq
    have hc : c ≠ '\n' := fun heq => hn heq
    have hlines : lines [c] = [[c]] := Text.lines_singleton hc
    have htext : unixText [c] = [c] := by
      rw [unixText, hlines, lastLineFeed]
      simp [joinLines, List.intercalate, hc]
    rw [htext]
    exact h
  | case5 c r hn hr l ls heq ih =>
    have hne : r ≠ [] := by
      rintro rfl
      cases heq
    have hlines : lines (c :: r) = (c :: l) :: ls := by
      refine Text.lines_cons_of_ne (fun h => hn h) (fun hc hhead => ?_) heq
      obtain ⟨t, rfl⟩ := List.head?_eq_some_iff.mp hhead
      exact hr t hc rfl
    have hc : c ≠ '\r' := by
      rintro rfl
      cases h with
      | keep _ => exact hr _ rfl rfl
      | char hc _ => exact hc rfl
    obtain ⟨r', heq', hclean⟩ := h.cons_inv hc
    cases heq'
    rw [unixText, hlines, joinLines_cons_cons, lastLineFeed_cons hne, List.cons_append, ← heq]
    exact .char hc (ih hclean)

/-- Whole lines come out with a line feed behind each. -/
theorem unixText_of_wholeLines {text : List Char} (h : WholeLines text) :
    unixText text = endedLines (lines text) := by
  rcases h with rfl | h
  · rfl
  · have hne : text ≠ [] := by
      rintro rfl
      cases h
    rw [unixText, lastLineFeed, if_pos h, joinLines_lineFeed (Text.lines_ne_nil hne)]

/-! ## Replacing the body -/

/-- The body of the section is found exactly where a line opens it. -/
theorem replaceBody_eq_none_iff (ls entries : List (List Char)) :
    replaceBody ls entries = none ↔ ∀ l ∈ ls, isDependencyHeader l = false := by
  have hnil : (ls.dropWhile fun l => !isDependencyHeader l) = [] ↔
      ∀ l ∈ ls, isDependencyHeader l = false := by
    simp [List.dropWhile_eq_nil_iff]
  rw [← hnil, replaceBody]
  cases ls.dropWhile fun l => !isDependencyHeader l <;> simp

/-- What stands between the header and the next line that opens a bracket is replaced. -/
theorem replaceBody_append {before body after : List (List Char)} {header : List Char}
    (hbefore : ∀ l ∈ before, isDependencyHeader l = false)
    (hheader : isDependencyHeader header = true) (hbody : ∀ l ∈ body, opensBracket l = false)
    (hafter : ∀ l ∈ after.head?, opensBracket l = true) (entries : List (List Char)) :
    replaceBody (before ++ header :: (body ++ after)) entries =
      some (before ++ header :: (entries ++ if after.isEmpty then [] else [] :: after)) := by
  have hbefore : ∀ l ∈ before, (!isDependencyHeader l) = true := fun l hl => by
    rw [hbefore l hl]
    rfl
  have hbody : ∀ l ∈ body, (!opensBracket l) = true := fun l hl => by
    rw [hbody l hl]
    rfl
  have hafter : after.dropWhile (fun l => !opensBracket l) = after := by
    cases after with
    | nil => rfl
    | cons l ls => simp [hafter l rfl]
  rw [replaceBody, List.dropWhile_append_of_pos hbefore, List.takeWhile_append_of_pos hbefore]
  simp only [List.dropWhile_cons, List.takeWhile_cons, hheader, Bool.not_true, Bool.false_eq_true,
    if_false, List.dropWhile_append_of_pos hbody, hafter, List.append_nil, List.append_assoc,
    List.cons_append]

/-! ## Cutting -/

/-- The lines of a manifest around the body of its section: those in front of the header of the
dependencies, the header, the body up to the next line that opens a bracket, and the rest. -/
structure Cut (text before header body after : List Char) : Prop where
  parts : text = before ++ (header ++ (body ++ after))
  before_whole : WholeLines before
  header_whole : WholeLines header
  body_whole : after = [] ∨ WholeLines body
  before_lines : ∀ l ∈ lines before, isDependencyHeader l = false
  header_line : ∃ l, lines header = [l] ∧ isDependencyHeader l = true
  body_lines : ∀ l ∈ lines body, opensBracket l = false
  after_line : ∀ l ∈ (lines after).head?, opensBracket l = true

section

variable {text before header body after : List Char} (h : Cut text before header body after)

include h

theorem Cut.lines_eq :
    lines text = lines before ++ (lines header ++ (lines body ++ lines after)) := by
  rw [h.parts, Text.lines_append h.before_whole, Text.lines_append h.header_whole]
  rcases h.body_whole with rfl | hbody
  · rw [List.append_nil]
    exact congrArg _ (congrArg _ (List.append_nil _).symm)
  · rw [Text.lines_append hbody]

/-- The body is what the rewriting replaces. -/
theorem Cut.replaceBody_eq (entries : List (List Char)) :
    replaceBody (lines text) entries = some (lines before ++ (lines header ++
      (entries ++ if (lines after).isEmpty then [] else [] :: lines after))) := by
  obtain ⟨l, hl, hheader⟩ := h.header_line
  rw [h.lines_eq, hl]
  exact replaceBody_append h.before_lines hheader h.body_lines h.after_line entries

theorem Cut.lastLineFeed_eq (hafter : after ≠ []) : lastLineFeed text = lastLineFeed after := by
  obtain ⟨c, t, rfl⟩ := List.exists_cons_of_ne_nil hafter
  have hlast : text.getLast? = (c :: t).getLast? := by
    rw [h.parts, ← List.append_assoc, ← List.append_assoc, List.getLast?_append]
    cases hl : (c :: t).getLast? with
    | none => simp at hl
    | some d => rfl
  rw [lastLineFeed, lastLineFeed, hlast]

/-- The rewritten text: the parts around the body with line feeds, and the entries between them. -/
theorem Cut.rewritten_eq {entries : List (List Char)} (hentries : entries ≠ []) :
    joinLines (lines before ++ (lines header ++
      (entries ++ if (lines after).isEmpty then [] else [] :: lines after))) ++ lastLineFeed text =
      unixText before ++ (unixText header ++
        if after = [] then joinLines entries ++ lastLineFeed text
        else endedLines entries ++ '\n' :: unixText after) := by
  have hne : ∀ t, entries ++ t ≠ [] := fun t => by simp [hentries]
  rw [joinLines_append (by simp [hne]), joinLines_append (hne _),
    unixText_of_wholeLines h.before_whole, unixText_of_wholeLines h.header_whole,
    List.append_assoc, List.append_assoc]
  congr 2
  by_cases hafter : after = []
  · subst hafter
    rw [if_pos rfl]
    simp [Text.lines]
  · have hlines := Text.lines_ne_nil hafter
    rw [if_neg hafter, if_neg (by simpa using hlines), joinLines_append (by simp),
      joinLines_cons hlines, List.append_assoc, h.lastLineFeed_eq hafter]
    rfl

end

end ValidatorKeys.Manifest
