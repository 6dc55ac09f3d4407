import Mathlib
import ValidatorKeys.Proofs.Report.Hiding
import ValidatorKeys.Proofs.Report.Lossless
import ValidatorKeys.Proofs.Text.Endings

/-!
# The totals of a report and its rows

Without colours a report has one line for each entry of a pass, two for the number of a round, one
for a build and two at its end.  An inserted key has a row of its own with an arrow, and whatever
was skipped one with a warning; no other line starts like these, whatever the fingerprints are, as
long as they stay on one line.  So the totals in the last line, and those in the summary of the
JSON form, are the numbers of these rows.

    rows that start with `→`  = r.insertedCount        rows that start with `⚠`  = r.skippedCount
-/

namespace ValidatorKeys

open Text (lines asRead)

/-! ## Definitions -/

/-- The entries of a generation pass. -/
def GenerateReport.entryCount (r : GenerateReport) : Nat := r.generated.length + r.skipped.length

/-- The entries of an insertion pass. -/
def InsertReport.entryCount (r : InsertReport) : Nat := r.inserted.length + r.skipped.length

def RoundReport.entryCount (r : RoundReport) : Nat :=
  (match r.generate with
    | some g => g.entryCount
    | none => 0) +
  match r.insert with
    | some i => i.entryCount
    | none => 0

/-- Whether a line is a row with a mark: it starts with three blanks and the mark. -/
def isRow (mark : Char) (line : List Char) : Bool := [' ', ' ', ' ', mark].isPrefixOf line

/-- How many lines are rows with a mark. -/
def rowCount (mark : Char) (ls : List (List Char)) : Nat := ls.countP (isRow mark)

def written (ls : List String) : List (List Char) := ls.map String.toList

/-- A field of an object. -/
def Json.field? (name : String) : Json → Option Json
  | .object fs => (fs.find? fun f => f.1 == name).map Prod.snd
  | _ => none

/-! ## Lines without line feeds -/

theorem GenerateReport.newline_not_mem {r : GenerateReport}
    (h : ∀ f ∈ r.fingerprints, '\n' ∉ f.toList) :
    ∀ line ∈ r.terminalLines false, '\n' ∉ line.toList := by
  simp only [terminalLines, List.forall_mem_append, List.forall_mem_map]
  refine ⟨fun k hk => ?_, fun s _ => ?_⟩
  · have hfingerprint : '\n' ∉ (k.fingerprint.getD "(no token)").toList := by
      cases hf : k.fingerprint with
      | none => decide
      | some f => exact h f (List.mem_filterMap.mpr ⟨k, hk, hf⟩)
    simp [hfingerprint]
  · simp

theorem InsertReport.newline_not_mem {r : InsertReport}
    (h : ∀ f ∈ r.fingerprints, '\n' ∉ f.toList) :
    ∀ line ∈ r.terminalLines false, '\n' ∉ line.toList := by
  simp only [terminalLines, List.forall_mem_append, List.forall_mem_map]
  refine ⟨fun k hk => ?_, fun b _ => ?_⟩
  · have hfingerprint : '\n' ∉ k.fingerprint.toList := h _ (List.mem_map.mpr ⟨k, hk, rfl⟩)
    simp [hfingerprint]
  · simp

theorem RoundReport.newline_not_mem {r : RoundReport}
    (h : ∀ f ∈ r.fingerprints, '\n' ∉ f.toList) :
    ∀ line ∈ r.terminalLines false, '\n' ∉ line.toList := by
  obtain ⟨round, generate, insert⟩ := r
  simp only [fingerprints, List.forall_mem_append] at h
  simp only [terminalLines, List.forall_mem_append, List.forall_mem_cons]
  refine ⟨⟨⟨by simp, by simp, List.forall_mem_nil _⟩, ?_⟩, ?_⟩
  · cases generate with
    | none => exact List.forall_mem_nil _
    | some g => exact g.newline_not_mem h.1
  · cases insert with
    | none => exact List.forall_mem_nil _
    | some i => exact i.newline_not_mem h.2

theorem Report.newline_not_mem {r : Report} (h : ∀ f ∈ r.fingerprints, '\n' ∉ f.toList) :
    ∀ line ∈ r.terminalLines false, '\n' ∉ line.toList := by
  simp only [terminalLines, List.forall_mem_append, List.forall_mem_cons]
  refine ⟨⟨?_, fun line hline => ?_⟩, by simp, by simp [totalsLine], List.forall_mem_nil _⟩
  · split <;> simp
  · obtain ⟨round, hround, hline⟩ := List.mem_flatMap.mp hline
    exact round.newline_not_mem (fun f hf => h f (List.mem_flatMap.mpr ⟨round, hround, hf⟩)) line
      hline

/-- **The lines of the printed report** are those that were written. -/
theorem Report.lines_terminalText {r : Report} (h : ∀ f ∈ r.fingerprints, '\n' ∉ f.toList) :
    lines (r.terminalText false).toList = (written (r.terminalLines false)).map asRead := by
  have htext : (r.terminalText false).toList =
      (written (r.terminalLines false)).flatMap fun l => l ++ ['\n'] := by
    rw [terminalText, String.toList_join, written, List.flatMap_map, List.flatMap_map]
    congr 1
    funext line
    exact String.toList_append
  rw [htext]
  exact Text.lines_flatMap_asRead (List.forall_mem_map.mpr (r.newline_not_mem h))

/-! ## Rows -/

theorem written_nil : written [] = [] := rfl

theorem written_append (ls ms : List String) : written (ls ++ ms) = written ls ++ written ms :=
  List.map_append

theorem written_flatMap {α : Type} (f : α → List String) (as : List α) :
    written (as.flatMap f) = as.flatMap fun a => written (f a) := List.map_flatMap

section

variable (mark : Char)

theorem rowCount_nil : rowCount mark [] = 0 := rfl

theorem rowCount_append (ls ms : List (List Char)) :
    rowCount mark (ls ++ ms) = rowCount mark ls + rowCount mark ms := List.countP_append

theorem rowCount_flatMap {α : Type} (f : α → List (List Char)) (as : List α) :
    rowCount mark (as.flatMap f) = (as.map fun a => rowCount mark (f a)).sum := List.countP_flatMap

/-- The line of the totals is no row, since a digit stands behind its first blank. -/
theorem isRow_number (n : Nat) (rest : List Char) :
    isRow mark (' ' :: (n.repr.toList ++ rest)) = false := by
  obtain ⟨d, ds, hds⟩ := List.exists_cons_of_ne_nil (Json.repr_ne_nil n)
  have hd : d ≠ ' ' := by
    rintro rfl
    exact absurd (Json.isDigit_repr n _ (hds ▸ List.mem_cons_self)) (by decide)
  rw [hds]
  simp [isRow, List.isPrefixOf, hd.symm]

end

/-- Reading the lines back changes none of the rows. -/
theorem rowCount_map_asRead {mark : Char} (h : mark ≠ '\r') (ls : List (List Char)) :
    rowCount mark (ls.map asRead) = rowCount mark ls := by
  rw [rowCount, rowCount, List.countP_map]
  congr 1
  funext l
  exact Text.isPrefixOf_asRead (by simpa using h.symm) l

namespace GenerateReport

variable (r : GenerateReport)

theorem rowCount_arrow : rowCount '→' (written (r.terminalLines false)) = 0 := by
  simp [written, terminalLines, rowCount, isRow, List.isPrefixOf]

theorem rowCount_warning : rowCount '⚠' (written (r.terminalLines false)) = r.skipped.length := by
  simp [written, terminalLines, rowCount, isRow, Function.comp_def, List.isPrefixOf]

theorem length_terminalLines : (r.terminalLines false).length = r.entryCount := by
  simp [terminalLines, entryCount]

end GenerateReport

namespace InsertReport

variable (r : InsertReport)

theorem rowCount_arrow : rowCount '→' (written (r.terminalLines false)) = r.inserted.length := by
  simp [written, terminalLines, rowCount, isRow, Function.comp_def, List.isPrefixOf]

theorem rowCount_warning : rowCount '⚠' (written (r.terminalLines false)) = r.skipped.length := by
  simp [written, terminalLines, rowCount, isRow, Function.comp_def, List.isPrefixOf]

theorem length_terminalLines : (r.terminalLines false).length = r.entryCount := by
  simp [terminalLines, entryCount]

end InsertReport

/-- The two lines above the rows of a round are no rows. -/
theorem rowCount_title (mark : Char) (round : Nat) :
    rowCount mark (written ["", " " ++ Text.paint false .strong ("Round " ++ round.repr)]) = 0 := by
  simp [written, rowCount, isRow, List.isPrefixOf]

namespace RoundReport

variable (r : RoundReport)

theorem rowCount_arrow : rowCount '→' (written (r.terminalLines false)) = r.insertedCount := by
  obtain ⟨round, generate, insert⟩ := r
  cases generate <;> cases insert <;>
    simp only [terminalLines, insertedCount, written_append, rowCount_append, rowCount_title,
      GenerateReport.rowCount_arrow, InsertReport.rowCount_arrow, written_nil, rowCount_nil,
      Nat.zero_add]

theorem rowCount_warning : rowCount '⚠' (written (r.terminalLines false)) = r.skippedCount := by
  obtain ⟨round, generate, insert⟩ := r
  cases generate <;> cases insert <;>
    simp only [terminalLines, skippedCount, written_append, rowCount_append, rowCount_title,
      GenerateReport.rowCount_warning, InsertReport.rowCount_warning, written_nil, rowCount_nil,
      Nat.zero_add]

theorem length_terminalLines : (r.terminalLines false).length = 2 + r.entryCount := by
  obtain ⟨round, generate, insert⟩ := r
  cases generate <;> cases insert <;>
    simp only [terminalLines, entryCount, List.length_append, List.length_cons, List.length_nil,
      GenerateReport.length_terminalLines, InsertReport.length_terminalLines] <;>
    omega

end RoundReport

namespace Report

variable (r : Report)

def totals : String :=
  " " ++ r.insertedCount.repr ++ " inserted, " ++ r.skippedCount.repr ++ " skipped"

theorem totalsLine_off : r.totalsLine false = r.totals := rfl

theorem asRead_totals : asRead r.totals.toList = r.totals.toList := by
  have hlast : r.totals.toList.getLast? = some 'd' := by
    rw [totals, String.toList_append, List.getLast?_append]
    rfl
  rw [asRead, hlast]
  rfl

/-- Only the rounds of a report have rows. -/
theorem rowCount_terminalLines (mark : Char) : rowCount mark (written (r.terminalLines false)) =
    (r.rounds.map fun x => rowCount mark (written (x.terminalLines false))).sum := by
  have hbuilt : rowCount mark (written (if r.built then
      [" " ++ Text.paint false (.strongIn .green) "✔" ++ " node binary built"] else [])) = 0 := by
    split
    · simp [written, rowCount, isRow, List.isPrefixOf]
    · rfl
  have hrule : isRow mark reportRule.toList = false := by
    unfold reportRule
    rw [String.toList_ofList]
    rfl
  have htotals : isRow mark r.totals.toList = false := by
    have hnumber := isRow_number mark r.insertedCount
      (" inserted, " ++ r.skippedCount.repr ++ " skipped").toList
    simpa [totals] using hnumber
  have hend : rowCount mark
      (written [Text.paint false .faint reportRule, r.totalsLine false]) = 0 := by
    rw [Text.paint_off, totalsLine_off]
    simp [written, rowCount, hrule, htotals]
  simp only [terminalLines, written_append, rowCount_append, hbuilt, hend, written_flatMap,
    rowCount_flatMap, Nat.zero_add, Nat.add_zero]

theorem rowCount_arrow : rowCount '→' (written (r.terminalLines false)) = r.insertedCount := by
  rw [rowCount_terminalLines, insertedCount, ← List.sum_eq_foldr]
  simp only [RoundReport.rowCount_arrow]

theorem rowCount_warning : rowCount '⚠' (written (r.terminalLines false)) = r.skippedCount := by
  rw [rowCount_terminalLines, skippedCount, ← List.sum_eq_foldr]
  simp only [RoundReport.rowCount_warning]

theorem length_terminalLines : (r.terminalLines false).length =
    (if r.built then 1 else 0) + (r.rounds.map fun x => 2 + x.entryCount).sum + 2 := by
  have hbuilt : (if r.built then
      [" " ++ Text.paint false (.strongIn .green) "✔" ++ " node binary built"] else []).length =
      if r.built then 1 else 0 := by
    split <;> rfl
  simp only [terminalLines, List.length_append, hbuilt, List.length_flatMap,
    RoundReport.length_terminalLines]
  rfl

end Report

/-! ## Top theorem -/

/-- The summary in the JSON form of a report, however the text is read: there is one value with
this text. -/
theorem Report.summary_of_jsonText (r : Report) :
    ∃ v : Json, (∀ w : Json, w.pretty = r.jsonText ↔ w = v) ∧
      ∃ summary, v.field? "summary" = some summary ∧
        summary.field? "inserted" = some (.number r.insertedCount) ∧
        summary.field? "skipped" = some (.number r.skippedCount) ∧
        summary.field? "rounds" = some (.number r.rounds.length) := by
  refine ⟨r.jsonWithSummary, fun w => ⟨Json.pretty_inj, congrArg Json.pretty⟩, ?_⟩
  exact ⟨_, rfl, rfl, rfl, rfl⟩

/-- **The totals match the rows.**  Where no fingerprint goes over a line, the report without
colours has a line for each entry beside those around them; as many rows with an arrow as keys
inserted and with a warning as keys skipped; and these two numbers in its last line and, with the
number of rounds, in the summary of its JSON form. -/
theorem Report.totals_match_rows {r : Report} (h : ∀ f ∈ r.fingerprints, '\n' ∉ f.toList) :
    (lines (r.terminalText false).toList).length =
        (if r.built then 1 else 0) + (r.rounds.map fun x => 2 + x.entryCount).sum + 2 ∧
      rowCount '→' (lines (r.terminalText false).toList) = r.insertedCount ∧
      rowCount '⚠' (lines (r.terminalText false).toList) = r.skippedCount ∧
      (lines (r.terminalText false).toList).getLast? = some r.totals.toList ∧
      ∃ v : Json, (∀ w : Json, w.pretty = r.jsonText ↔ w = v) ∧
        ∃ summary, v.field? "summary" = some summary ∧
          summary.field? "inserted" = some (.number r.insertedCount) ∧
          summary.field? "skipped" = some (.number r.skippedCount) ∧
          summary.field? "rounds" = some (.number r.rounds.length) := by
  rw [r.lines_terminalText h]
  refine ⟨?_, ?_, ?_, ?_, r.summary_of_jsonText⟩
  · rw [List.length_map, written, List.length_map, r.length_terminalLines]
  · rw [rowCount_map_asRead (by decide), r.rowCount_arrow]
  · rw [rowCount_map_asRead (by decide), r.rowCount_warning]
  · have hlast : (written (r.terminalLines false)).getLast? = some r.totals.toList := by
      rw [Report.terminalLines, written_append, List.getLast?_append]
      rfl
    rw [List.getLast?_map, hlast, Option.map_some, r.asRead_totals]

/-- Two rounds, one of them without a generation pass: a key without a fingerprint, fingerprints
that look like rows or end in a carriage return. -/
theorem Report.totals_match_rows_two_rounds :
    let report : Report := {
      built := true
      rounds := [⟨1, some ⟨[⟨.sr25519, none⟩, ⟨.ed25519, some "   ⚠ a"⟩], [.ecdsa]⟩,
        some ⟨[⟨.ed25519, ⟨"gran", by decide⟩, "   → b"⟩], [⟨.sr25519, ⟨"babe", by decide⟩⟩]⟩⟩,
        ⟨2, none, some ⟨[⟨.ed25519, ⟨"gran", by decide⟩, "c\r"⟩], []⟩⟩] }
    (∀ f ∈ report.fingerprints, '\n' ∉ f.toList) ∧
      (lines (report.terminalText false).toList).length = 13 ∧
      rowCount '→' (lines (report.terminalText false).toList) = 2 ∧
      rowCount '⚠' (lines (report.terminalText false).toList) = 2 ∧
      (lines (report.terminalText false).toList).getLast? =
        some " 2 inserted, 2 skipped".toList ∧
      ∃ v : Json, v.pretty = report.jsonText ∧
        (v.field? "summary").bind (Json.field? "skipped") = some (.number 2) := by
  intro report
  have hfingerprints : ∀ f ∈ report.fingerprints, '\n' ∉ f.toList := by decide
  obtain ⟨hlength, harrow, hwarning, hlast, v, hv, summary, hsummary, -, hskipped, -⟩ :=
    Report.totals_match_rows hfingerprints
  have htotals : report.totals = " 2 inserted, 2 skipped" := by decide
  rw [htotals] at hlast
  refine ⟨hfingerprints, hlength, harrow, hwarning, hlast, v, (hv v).mpr rfl, ?_⟩
  rw [hsummary]
  exact hskipped

end ValidatorKeys
