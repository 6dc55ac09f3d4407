import Mathlib.Data.List.Forall2
import ValidatorKeys.Proofs.Text.Endings

/-!
# The pieces of a text

A text is its pieces with a separator between them.  The lines of a text are the pieces between its
line feeds, as they are read and without an empty last one; trimmed, they are the trimmed pieces.
So neither blanks around the lines nor carriage returns in front of line feeds are seen by whoever
trims the lines.

    splitAt sep (intercalate [sep] ps) = ps                        for ps without separators
    trimmedPieces s                    = (lines s).map trim        but for an empty last line
    trimmedPieces t                    = trimmedPieces s           where ReturnsAdded s t
-/

namespace ValidatorKeys.Text

/-! ## Definitions -/

/-- Blanks that do not end a line. -/
structure Margin (a : List Char) : Prop where
  blank : allBlank a = true
  newline_not_mem : '\n' ∉ a

/-- A line, and the same with blanks at its start and at its end. -/
inductive Padded : List Char → List Char → Prop
  | intro {a b : List Char} (ha : Margin a) (hb : Margin b) (l : List Char) :
      Padded l (a ++ l ++ b)

/-- A text, and the same with a carriage return in front of some of its line feeds. -/
inductive ReturnsAdded : List Char → List Char → Prop
  | nil : ReturnsAdded [] []
  | keep (c : Char) {s t : List Char} (h : ReturnsAdded s t) : ReturnsAdded (c :: s) (c :: t)
  | turn {s t : List Char} (h : ReturnsAdded s t) : ReturnsAdded ('\n' :: s) ('\r' :: '\n' :: t)

def trimmedPieces (s : List Char) : List (List Char) := (splitAt '\n' s).map trim

/-! ## Splitting -/

theorem splitAt_eq_splitOn (sep : Char) (s : List Char) : splitAt sep s = s.splitOn sep := by
  induction s with
  | nil => rfl
  | cons c s ih =>
    rw [splitAt, List.splitOn_cons_eq_if_modifyHead, ← ih]
    by_cases hc : c = sep
    · rw [if_pos hc, if_pos (beq_iff_eq.mpr hc)]
    · rw [if_neg hc, if_neg (mt beq_iff_eq.mp hc)]
      obtain ⟨p, ps, hps⟩ := List.exists_cons_of_ne_nil (splitAt_ne_nil sep s)
      rw [hps]
      rfl

theorem splitAt_append (sep : Char) (a b : List Char) :
    splitAt sep (a ++ sep :: b) = splitAt sep a ++ splitAt sep b := by
  simp only [splitAt_eq_splitOn]
  exact List.splitOn_append_cons_self a b

theorem splitAt_cons_of_ne {sep c : Char} {s p : List Char} {ps : List (List Char)} (hc : c ≠ sep)
    (h : splitAt sep s = p :: ps) : splitAt sep (c :: s) = (c :: p) :: ps := by
  rw [splitAt, if_neg hc, h]

theorem sep_not_mem_of_mem_splitAt {sep : Char} {s p : List Char} (h : p ∈ splitAt sep s) :
    sep ∉ p := by
  induction s generalizing p with
  | nil =>
    rw [splitAt, List.mem_singleton] at h
    simp [h]
  | cons c s ih =>
    by_cases hc : c = sep
    · rw [splitAt, if_pos hc] at h
      rcases List.mem_cons.mp h with rfl | h
      · simp
      · exact ih h
    · obtain ⟨q, qs, hqs⟩ := List.exists_cons_of_ne_nil (splitAt_ne_nil sep s)
      rw [splitAt_cons_of_ne hc hqs] at h
      rw [hqs] at ih
      rcases List.mem_cons.mp h with rfl | h
      · simp only [List.mem_cons, not_or]
        exact ⟨fun heq => hc heq.symm, ih List.mem_cons_self⟩
      · exact ih (List.mem_cons_of_mem _ h)

/-- **A text is its pieces**, the separator between them. -/
theorem intercalate_splitAt (sep : Char) (s : List Char) :
    List.intercalate [sep] (splitAt sep s) = s := by
  rw [splitAt_eq_splitOn]
  exact List.intercalate_splitOn sep

theorem splitAt_intercalate {sep : Char} {ps : List (List Char)} (h : ∀ p ∈ ps, sep ∉ p)
    (hne : ps ≠ []) : splitAt sep (List.intercalate [sep] ps) = ps := by
  rw [splitAt_eq_splitOn]
  exact List.splitOn_intercalate sep h hne

/-! ## Lines as pieces -/

theorem lines_eq_singleton {l : List Char} (h : '\n' ∉ l) (hne : l ≠ []) : lines l = [l] := by
  induction l with
  | nil => exact absurd rfl hne
  | cons c l ih =>
    rw [List.mem_cons, not_or] at h
    by_cases hl : l = []
    · subst hl
      exact lines_singleton (Ne.symm h.1)
    · exact lines_cons_of_ne (Ne.symm h.1) (fun _ hhead => h.2 (List.mem_of_mem_head? hhead))
        (ih h.2 hl)

/-- The carriage return that goes with a line feed would be trimmed away. -/
theorem trim_asRead (l : List Char) : trim (asRead l) = trim l := by
  unfold asRead
  split
  · next hlast =>
    obtain ⟨front, rfl⟩ := List.getLast?_eq_some_iff.mp hlast
    rw [List.dropLast_concat]
    exact (trim_between (a := []) rfl (by decide) front).symm
  · rfl

/-- The trimmed lines of joined pieces are the trimmed pieces, but for an empty last one. -/
theorem map_trim_lines_intercalate {ps : List (List Char)} (h : ∀ p ∈ ps, '\n' ∉ p)
    (hne : ps ≠ []) : ∃ rest, ps.map trim = (lines (List.intercalate ['\n'] ps)).map trim ++ rest ∧
      ∀ l ∈ rest, l = [] := by
  induction ps with
  | nil => exact absurd rfl hne
  | cons p ps ih =>
    rw [List.forall_mem_cons] at h
    by_cases hps : ps = []
    · subst hps
      rw [List.intercalate_singleton]
      by_cases hp : p = []
      · subst hp
        exact ⟨[[]], rfl, by simp⟩
      · rw [lines_eq_singleton h.1 hp]
        exact ⟨[], rfl, List.forall_mem_nil _⟩
    · obtain ⟨rest, heq, hrest⟩ := ih h.2 hps
      refine ⟨rest, ?_, hrest⟩
      rw [List.intercalate_cons_of_ne_nil hps, List.append_assoc, List.singleton_append,
        lines_append_newline_asRead h.1, List.map_cons, List.map_cons, trim_asRead, heq,
        List.cons_append]

/-- **The trimmed lines are the trimmed pieces**, but for an empty last one. -/
theorem trimmedPieces_eq (s : List Char) :
    ∃ rest, trimmedPieces s = (lines s).map trim ++ rest ∧ ∀ l ∈ rest, l = [] := by
  have hpieces :=
    map_trim_lines_intercalate (fun _ => sep_not_mem_of_mem_splitAt) (splitAt_ne_nil '\n' s)
  rwa [intercalate_splitAt] at hpieces

/-- A search that no empty line ends finds the same among the lines and among the pieces. -/
theorem find?_lines {p : List Char → Bool} (hp : p [] = false) (s : List Char) :
    ((lines s).map trim).find? p = (trimmedPieces s).find? p := by
  obtain ⟨rest, heq, hrest⟩ := trimmedPieces_eq s
  have hnone : rest.find? p = none := List.find?_eq_none.mpr fun l hl => by
    rw [hrest l hl, hp]
    exact Bool.false_ne_true
  rw [heq, List.find?_append, hnone, Option.or_none]

/-! ## Layout -/

theorem Margin.nil : Margin [] := ⟨rfl, List.not_mem_nil⟩

theorem Padded.refl (l : List Char) : Padded l l := by
  simpa using Padded.intro .nil .nil l

theorem Padded.trim_eq {l m : List Char} (h : Padded l m) : trim m = trim l := by
  cases h with
  | intro ha hb => exact trim_between ha.blank hb.blank l

theorem Padded.newline_not_mem {l m : List Char} (h : Padded l m) (hl : '\n' ∉ l) : '\n' ∉ m := by
  cases h with
  | intro ha hb => simp [ha.newline_not_mem, hb.newline_not_mem, hl]

section

variable {ls ms : List (List Char)}

theorem map_trim_of_padded (h : List.Forall₂ Padded ls ms) : ms.map trim = ls.map trim := by
  induction h with
  | nil => rfl
  | cons hl _ ih => rw [List.map_cons, List.map_cons, hl.trim_eq, ih]

theorem newline_not_mem_of_padded (h : List.Forall₂ Padded ls ms) (hls : ∀ l ∈ ls, '\n' ∉ l) :
    ∀ m ∈ ms, '\n' ∉ m := by
  induction h with
  | nil => exact List.forall_mem_nil _
  | cons hl _ ih =>
    rw [List.forall_mem_cons] at hls ⊢
    exact ⟨hl.newline_not_mem hls.1, ih hls.2⟩

end

/-- **Blanks around the lines** are not seen once the lines are trimmed. -/
theorem trimmedPieces_of_padded {s : List Char} {ms : List (List Char)}
    (h : List.Forall₂ Padded (splitAt '\n' s) ms) :
    trimmedPieces (List.intercalate ['\n'] ms) = trimmedPieces s := by
  have hne : ms ≠ [] := by
    rintro rfl
    exact splitAt_ne_nil '\n' s (List.forall₂_nil_right_iff.mp h)
  have hms := newline_not_mem_of_padded h fun _ => sep_not_mem_of_mem_splitAt
  rw [trimmedPieces, splitAt_intercalate hms hne, map_trim_of_padded h, trimmedPieces]

theorem ReturnsAdded.refl (s : List Char) : ReturnsAdded s s := by
  induction s with
  | nil => exact .nil
  | cons c s ih => exact .keep c ih

/-- A piece stays as it is or has a carriage return behind it. -/
theorem ReturnsAdded.forall₂ {s t : List Char} (h : ReturnsAdded s t) :
    List.Forall₂ (fun p q => q = p ∨ q = p ++ ['\r']) (splitAt '\n' s) (splitAt '\n' t) := by
  induction h with
  | nil => exact .cons (.inl rfl) .nil
  | @keep c s t h ih =>
    by_cases hc : c = '\n'
    · rw [splitAt, splitAt, if_pos hc, if_pos hc]
      exact .cons (.inl rfl) ih
    · obtain ⟨p, ps, hps⟩ := List.exists_cons_of_ne_nil (splitAt_ne_nil '\n' s)
      obtain ⟨q, qs, hqs⟩ := List.exists_cons_of_ne_nil (splitAt_ne_nil '\n' t)
      rw [hps, hqs] at ih
      rw [splitAt_cons_of_ne hc hps, splitAt_cons_of_ne hc hqs]
      cases ih with
      | cons hq hqs => exact .cons (hq.imp (congrArg (c :: ·)) (congrArg (c :: ·))) hqs
  | turn h ih => exact .cons (.inr rfl) ih

/-- **Carriage returns in front of line feeds** are blanks at the ends of lines. -/
theorem trimmedPieces_of_returnsAdded {s t : List Char} (h : ReturnsAdded s t) :
    trimmedPieces t = trimmedPieces s := by
  have hpadded : List.Forall₂ Padded (splitAt '\n' s) (splitAt '\n' t) := by
    refine h.forall₂.imp ?_
    rintro p q (rfl | rfl)
    · exact .refl q
    · exact .intro .nil ⟨by decide, by decide⟩ p
  exact map_trim_of_padded hpadded

end ValidatorKeys.Text
