import Mathlib.Data.List.DropRight
import ValidatorKeys.Config.PasswordSource
import ValidatorKeys.Proofs.Text.Lines

/-!
# The password in a file

The password is the whole file but the carriage returns and line feeds at its end.  A second line
that holds anything else is a part of it, and so is the line feed in front of that line: what the
node reads is then more than one entry.  The password is the file's first line exactly when nothing
but line ending characters stands behind that line and the line does not end in one.

    file      "pw\r\n"   "pw\n\n\r"   "pw\r"   "a\nb\n"
    password  "pw"       "pw"         "pw"     "a\nb"
    line 1    "pw"       "pw"         "pw\r"   "a"
-/

namespace ValidatorKeys.Password

/-! ## Definitions -/

/-- Whether a text has no other characters than those of line endings. -/
def OnlyLineEnds (s : List Char) : Prop := ∀ c ∈ s, c = '\r' ∨ c = '\n'

instance (s : List Char) : Decidable (OnlyLineEnds s) := List.decidableBAll _ s

def firstLine (s : List Char) : List Char := (Text.lines s).headD []

/-- What stands behind the first line, from its ending on. -/
def behindFirstLine (s : List Char) : List Char := s.drop (firstLine s).length

/-- The result that a file with this content has when the password is its first line. -/
def SuppliesFirstLine (result : Except PasswordError Password) (path content : String) : Prop :=
  (∀ p, result = .ok p ↔ p.text.toList = firstLine content.toList) ∧
    (result = .error (.empty path) ↔ firstLine content.toList = [])

/-- Whether a text is a single entry: it has a line feed at its end and nowhere else. -/
def IsEntry (s : String) : Prop := ∃ l, s.toList = l ++ ['\n'] ∧ '\n' ∉ l

/-! ## The first line -/

theorem firstLine_append_behindFirstLine (s : List Char) :
    firstLine s ++ behindFirstLine s = s := by
  refine List.prefix_iff_eq_append.mp ?_
  unfold firstLine
  cases hlines : Text.lines s with
  | nil => exact List.nil_prefix
  | cons l ls =>
    obtain ⟨r, hr⟩ := Text.exists_append_of_lines hlines
    exact ⟨r, hr.symm⟩

theorem newline_not_mem_firstLine (s : List Char) : '\n' ∉ firstLine s := by
  unfold firstLine
  cases hlines : Text.lines s with
  | nil => simp
  | cons l ls => exact Text.newline_not_mem_of_mem_lines (hlines ▸ List.mem_cons_self)

/-- A line at the front of a text is a part of the first line. -/
theorem prefix_firstLine {l : List Char} (h : Text.IsLine l) (r : List Char) :
    l <+: firstLine (l ++ r) := by
  induction l with
  | nil => exact List.nil_prefix
  | cons c l ih =>
    have hc : c ≠ '\n' := fun hc => h.newline_not_mem (hc ▸ List.mem_cons_self)
    have ih := ih h.of_cons
    unfold firstLine at ih ⊢
    cases hlines : Text.lines (l ++ r) with
    | nil =>
      have hnil := List.append_eq_nil_iff.mp (Text.lines_eq_nil hlines)
      rw [List.cons_append, hnil.1, hnil.2, List.append_nil, Text.lines_singleton hc]
      exact List.prefix_rfl
    | cons l' ls =>
      rw [hlines] at ih
      rw [List.cons_append, Text.lines_cons_of_ne hc (h.head?_append_ne r) hlines]
      exact List.cons_prefix_cons.mpr ⟨rfl, ih⟩

/-! ## Dropped line endings -/

private theorem dropLineEnds_eq_rdropWhile (s : List Char) :
    dropLineEnds s = s.rdropWhile fun c => c = '\r' || c = '\n' := rfl

theorem dropLineEnds_eq_nil_iff {s : List Char} : dropLineEnds s = [] ↔ OnlyLineEnds s := by
  rw [dropLineEnds_eq_rdropWhile, List.rdropWhile_eq_nil_iff, OnlyLineEnds]
  simp

theorem exists_dropLineEnds (s : List Char) : ∃ e, s = dropLineEnds s ++ e ∧ OnlyLineEnds e := by
  refine ⟨s.rtakeWhile fun c => c = '\r' || c = '\n', ?_, fun c hc => ?_⟩
  · rw [dropLineEnds_eq_rdropWhile, List.rdropWhile_append_rtakeWhile]
  · simpa using List.mem_rtakeWhile_imp hc

theorem dropLineEnds_append (s : List Char) {e : List Char} (he : OnlyLineEnds e) :
    dropLineEnds (s ++ e) = dropLineEnds s := by
  unfold dropLineEnds
  rw [List.reverse_append, List.dropWhile_append_of_pos]
  intro c hc
  simpa using he c (List.mem_reverse.mp hc)

theorem dropLineEnds_eq_self_iff {s : List Char} :
    dropLineEnds s = s ↔ s.getLast? ≠ some '\r' ∧ s.getLast? ≠ some '\n' := by
  rw [dropLineEnds_eq_rdropWhile, List.rdropWhile_eq_self_iff]
  cases s using List.reverseRecOn with
  | nil => simp
  | append_singleton s c => simp

/-- **A second line is a part of the password**: the password has a line feed exactly when more
than line endings stands behind the first line. -/
theorem newline_mem_dropLineEnds_iff {s : List Char} :
    '\n' ∈ dropLineEnds s ↔ ¬OnlyLineEnds (behindFirstLine s) := by
  obtain ⟨e, hs, he⟩ := exists_dropLineEnds s
  constructor
  · intro hmem hbehind
    -- nothing but the first line is left to hold the line feed
    rw [← firstLine_append_behindFirstLine s, dropLineEnds_append _ hbehind] at hmem
    obtain ⟨x, hx, _⟩ := exists_dropLineEnds (firstLine s)
    exact newline_not_mem_firstLine s (hx ▸ List.mem_append_left x hmem)
  · intro hbehind
    refine Decidable.byContradiction fun hmem => hbehind ?_
    have hline : Text.IsLine (dropLineEnds s) :=
      ⟨hmem, (dropLineEnds_eq_self_iff.mp (List.rdropWhile_idempotent _ s)).1⟩
    -- what is left lies in the first line, so what follows that line was dropped
    obtain ⟨x, hx⟩ : dropLineEnds s <+: firstLine s := by
      have := prefix_firstLine hline e
      rwa [← hs] at this
    have hsplit : dropLineEnds s ++ (x ++ behindFirstLine s) = dropLineEnds s ++ e := by
      rw [← List.append_assoc, hx, firstLine_append_behindFirstLine, ← hs]
    rw [← List.append_cancel_left hsplit] at he
    exact fun c hc => he c (List.mem_append_right x hc)

theorem dropLineEnds_eq_firstLine_iff {s : List Char} :
    dropLineEnds s = firstLine s ↔
      OnlyLineEnds (behindFirstLine s) ∧ (firstLine s).getLast? ≠ some '\r' := by
  constructor
  · intro h
    refine ⟨Decidable.not_not.mp fun hbehind => ?_, ?_⟩
    · exact newline_not_mem_firstLine s (h ▸ newline_mem_dropLineEnds_iff.mpr hbehind)
    · rw [← h]
      exact (dropLineEnds_eq_self_iff.mp (List.rdropWhile_idempotent _ s)).1
  · rintro ⟨hbehind, hcr⟩
    have hlf : (firstLine s).getLast? ≠ some '\n' := fun hlast =>
      newline_not_mem_firstLine s (List.mem_of_getLast? hlast)
    calc dropLineEnds s
        = dropLineEnds (firstLine s ++ behindFirstLine s) := by
          rw [firstLine_append_behindFirstLine]
      _ = dropLineEnds (firstLine s) := dropLineEnds_append _ hbehind
      _ = firstLine s := dropLineEnds_eq_self_iff.mpr ⟨hcr, hlf⟩

/-! ## The password of a file -/

theorem fromSource_eq_ok_iff {source text : String} {p : Password} :
    fromSource source text = .ok p ↔ p.text = text := by
  unfold fromSource ofText?
  split
  · next q hq =>
    split at hq
    · cases hq
      obtain ⟨t, ht⟩ := p
      simp [eq_comm]
    · cases hq
  · next hq =>
    split at hq
    · cases hq
    · next hempty => simpa using fun h => p.nonempty (h.trans (Decidable.not_not.mp hempty))

theorem fromSource_eq_empty_iff {source text : String} :
    fromSource source text = .error (.empty source) ↔ text = "" := by
  unfold fromSource ofText?
  by_cases h : text = "" <;> simp [h]

theorem isEntry_payload_iff (p : Password) : IsEntry p.payload ↔ '\n' ∉ p.text.toList := by
  unfold IsEntry payload
  simp only [String.toList_append]
  constructor
  · rintro ⟨l, hl, hmem⟩
    rwa [List.append_cancel_right hl]
  · exact fun h => ⟨_, rfl, h⟩

section File

variable {t : FileTree} {e : Environment} {path content : String}

theorem resolve_some (h : t.readText e.directory path = .ok content) :
    resolve t e (some path) =
      fromSource path (String.ofList (dropLineEnds content.toList)) := by
  simp only [resolve, h]

/-- **The password of a file**, in every environment: the file without the line ending characters
at its end.  There is none exactly when the file has no other characters.  The node reads it as one
entry exactly when no other characters stand behind the first line; it is the first line exactly
when, besides, that line does not end in a carriage return. -/
theorem resolve_file (h : t.readText e.directory path = .ok content) :
    (∀ p, resolve t e (some path) = .ok p ↔ p.text.toList = dropLineEnds content.toList) ∧
      (resolve t e (some path) = .error (.empty path) ↔ OnlyLineEnds content.toList) ∧
      (SuppliesFirstLine (resolve t e (some path)) path content ↔
        OnlyLineEnds (behindFirstLine content.toList) ∧
          (firstLine content.toList).getLast? ≠ some '\r') ∧
      (∀ p, resolve t e (some path) = .ok p →
        (IsEntry p.payload ↔ OnlyLineEnds (behindFirstLine content.toList))) := by
  have hok : ∀ p, resolve t e (some path) = .ok p ↔
      p.text.toList = dropLineEnds content.toList := by
    intro p
    rw [resolve_some h, fromSource_eq_ok_iff, ← String.toList_inj, String.toList_ofList]
  have hempty : resolve t e (some path) = .error (.empty path) ↔
      dropLineEnds content.toList = [] := by
    rw [resolve_some h, fromSource_eq_empty_iff, ← String.toList_inj, String.toList_ofList]
    rfl
  refine ⟨hok, hempty.trans dropLineEnds_eq_nil_iff, ?_, fun p hp => ?_⟩
  · rw [SuppliesFirstLine, hempty, ← dropLineEnds_eq_firstLine_iff]
    constructor
    · rintro ⟨hsome, hnone⟩
      by_cases hnil : dropLineEnds content.toList = []
      · rw [hnil, hnone.mp hnil]
      · -- the password itself is the first line
        have hne : String.ofList (dropLineEnds content.toList) ≠ "" := fun h =>
          hnil (by simpa using congrArg String.toList h)
        have := (hsome ⟨_, hne⟩).mp ((hok ⟨_, hne⟩).mpr String.toList_ofList)
        rwa [String.toList_ofList] at this
    · intro heq
      exact ⟨fun p => heq ▸ hok p, by rw [heq]⟩
  · rw [isEntry_payload_iff, (hok p).mp hp, newline_mem_dropLineEnds_iff, Decidable.not_not]

end File

/-- The tree with one file that only its owner may read. -/
def oneFile (name text : String) : FileTree := ⟨[([name], .file text.toUTF8 0o600)]⟩

/-- A line and a blank line behind it: the blanks in the line stay, and the variable is not looked
at. -/
theorem resolve_blank_second_line :
    (oneFile "pw" " two words \r\n\n").readText "/" "pw" = .ok " two words \r\n\n" ∧
      resolve (oneFile "pw" " two words \r\n\n") ⟨"/", [(variableName, "other")]⟩ (some "pw") =
        .ok ⟨" two words ", by decide⟩ ∧
      SuppliesFirstLine
        (resolve (oneFile "pw" " two words \r\n\n") ⟨"/", [(variableName, "other")]⟩ (some "pw"))
        "pw" " two words \r\n\n" ∧
      IsEntry (payload ⟨" two words ", by decide⟩) := by
  have hread : (oneFile "pw" " two words \r\n\n").readText "/" "pw" =
      .ok " two words \r\n\n" := by decide +kernel
  have hbehind : OnlyLineEnds (behindFirstLine " two words \r\n\n".toList) := by decide +kernel
  obtain ⟨hok, _, hfirst, hentry⟩ :=
    resolve_file (e := ⟨"/", [(variableName, "other")]⟩) hread
  have hresolve := (hok ⟨" two words ", by decide⟩).mpr (by decide +kernel)
  exact ⟨hread, hresolve, hfirst.mpr ⟨hbehind, by decide +kernel⟩,
    (hentry _ hresolve).mpr hbehind⟩

/-- **Two lines are one password**: it is not the first line, and the node reads two entries. -/
theorem two_lines_one_password :
    (oneFile "pw" "first\nsecond\n").readText "/" "pw" = .ok "first\nsecond\n" ∧
      resolve (oneFile "pw" "first\nsecond\n") ⟨"/", []⟩ (some "pw") =
        .ok ⟨"first\nsecond", by decide⟩ ∧
      ¬SuppliesFirstLine (resolve (oneFile "pw" "first\nsecond\n") ⟨"/", []⟩ (some "pw"))
        "pw" "first\nsecond\n" ∧
      ¬IsEntry (payload ⟨"first\nsecond", by decide⟩) := by
  have hresolve : resolve (oneFile "pw" "first\nsecond\n") ⟨"/", []⟩ (some "pw") =
      .ok ⟨"first\nsecond", by decide⟩ := by decide +kernel
  refine ⟨by decide +kernel, hresolve, fun h => ?_, fun h => ?_⟩
  · have := (h.1 _).mp hresolve
    revert this
    decide +kernel
  · exact (isEntry_payload_iff _).mp h (by decide +kernel)

end ValidatorKeys.Password
