import ValidatorKeys.Key.Selection
import ValidatorKeys.Proofs.Text.Lines
import ValidatorKeys.Report.Basic
import ValidatorKeys.Text.Utf8

/-!
# Records and the text that holds them

The records that outputs of the node give, the text of a key file that holds them, and what is found
in its lines.  Reading the text gives back one line to a record, and the label in front of a seed
line neither hides its token nor is taken for one.

    lines (fileText rs) = rs.map Record.line            for records of seed lines
    candidates (rs.map Record.line) s = the tokens of the records of s, in order
-/

namespace ValidatorKeys

open Text (IsLine)

/-! ## Algorithm -/

def recordOf? (s : Scheme) (output : String) : Option Record :=
  (SeedLine.find output.toList).map (Record.mk s)

def seedRecords (schemes : List Scheme) (outputs : List String) : List Record :=
  (schemes.zip outputs).filterMap fun x => recordOf? x.1 x.2

def Record.key (r : Record) : GeneratedKey :=
  ⟨r.scheme, (Token.extract r.seedLine).map Token.fingerprint⟩

/-- The report on the outputs for these schemes. -/
def generateReport (schemes : List Scheme) (outputs : List String) : GenerateReport :=
  ⟨(seedRecords schemes outputs).map Record.key,
    (schemes.zip outputs).filterMap fun x =>
      match recordOf? x.1 x.2 with
      | some _ => none
      | none => some x.1⟩

def fileText (rs : List Record) : List Char := rs.flatMap fun r => r.line ++ ['\n']

/-- The content of a key file that holds these records. -/
def fileBytes (rs : List Record) : ByteArray := (String.ofList (fileText rs)).toUTF8

/-! ## Lemmas -/

/-- A seed line that was found can be written and read back. -/
theorem isLine_of_find {output line : List Char} (h : SeedLine.find output = some line) :
    IsLine line := by
  obtain ⟨l, hl, rfl⟩ := List.mem_map.mp (List.mem_of_find?_eq_some h)
  exact Text.isLine_trim hl

theorem isLine_of_mem_seedRecords {schemes : List Scheme} {outputs : List String}
    {r : Record} (h : r ∈ seedRecords schemes outputs) : IsLine r.seedLine := by
  obtain ⟨⟨s, o⟩, -, hr⟩ := List.mem_filterMap.mp h
  obtain ⟨line, hline, rfl⟩ := Option.map_eq_some_iff.mp hr
  exact isLine_of_find hline

theorem Scheme.isBlank_of_mem_label (s : Scheme) : ∀ c ∈ s.label, Text.isBlank c = false := by
  have hall : (s.label.all fun c => !Text.isBlank c) = true := by
    cases s <;> rfl
  intro c hc
  simpa using List.all_eq_true.mp hall c hc

namespace Record

theorem isLine_line {r : Record} (h : IsLine r.seedLine) : IsLine r.line where
  newline_not_mem hm := by
    rcases List.mem_append.mp hm with hm | hm
    · have := r.scheme.isBlank_of_mem_label '\n' hm
      revert this
      decide
    · rcases List.mem_cons.mp hm with hm | hm
      · revert hm
        decide
      · exact h.newline_not_mem hm
  getLast?_ne hl := by
    rw [line, List.getLast?_append, List.getLast?_cons, Option.some_or,
      Option.some.injEq] at hl
    cases hs : r.seedLine.getLast? with
    | none =>
      rw [hs] at hl
      revert hl
      decide
    | some c =>
      rw [hs, Option.getD_some] at hl
      exact h.getLast?_ne (hl ▸ hs)

/-- The label of a record is no token and hides none. -/
theorem extract_line (r : Record) : Token.extract r.line = Token.extract r.seedLine := by
  have hlabel : Token.ofText? r.scheme.label = none := by
    cases r.scheme <;> decide
  unfold Token.extract line
  rw [Text.words_append_blank (by cases r.scheme <;> decide) r.scheme.isBlank_of_mem_label
    (by decide), List.findSome?_cons, hlabel]

/-- No line carries the labels of two schemes. -/
theorem label_isPrefixOf_line (s : Scheme) (r : Record) :
    s.label.isPrefixOf r.line = decide (r.scheme = s) := by
  obtain ⟨s', l⟩ := r
  cases s <;> cases s' <;> simp [line, Scheme.label, Scheme.name, List.isPrefixOf]

end Record

/-- The lines of a scheme hold the tokens of its records. -/
theorem candidates_map_line (rs : List Record) (s : Scheme) :
    candidates (rs.map Record.line) s =
      (rs.filter fun r => r.scheme = s).map fun r => Token.extract r.seedLine := by
  unfold candidates
  rw [List.filter_map, List.map_map]
  have hfilter : rs.filter ((fun line => s.label.isPrefixOf line) ∘ Record.line) =
      rs.filter fun r => r.scheme = s :=
    List.filter_congr fun r _ => Record.label_isPrefixOf_line s r
  rw [hfilter]
  exact List.map_congr_left fun r _ => r.extract_line

theorem lines_fileText {rs : List Record} (h : ∀ r ∈ rs, IsLine r.seedLine) :
    Text.lines (fileText rs) = rs.map Record.line := by
  have hmap : fileText rs = (rs.map Record.line).flatMap fun l => l ++ ['\n'] := by
    rw [List.flatMap_map]
    rfl
  rw [hmap, Text.lines_flatMap_newline]
  intro l hl
  obtain ⟨r, hr, rfl⟩ := List.mem_map.mp hl
  exact Record.isLine_line (h r hr)

theorem fileBytes_append_singleton (rs : List Record) (r : Record) :
    fileBytes (rs ++ [r]) = fileBytes rs ++ r.bytes := by
  have htext : fileText (rs ++ [r]) = fileText rs ++ (r.line ++ ['\n']) := by
    simp [fileText]
  rw [fileBytes, htext, String.ofList_append]
  exact Text.encode_append _ _

end ValidatorKeys
