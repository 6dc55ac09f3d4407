import Mathlib
import ValidatorKeys.Proofs.Manifest.Rewriting

/-!
# What sorting a manifest keeps

The order of the dependencies is taken from the document, the body of their section from the lines
of the text.  Where both are the same part of the text, sorting changes the order and nothing else,
and sorting twice is sorting once.  Where a line inside a value opens a bracket they are not, and
the rewritten text need not be a document.

    parse (sort text) = (parse text) with its dependencies in sorted order
    sort (sort text)  = sort text
-/

namespace ValidatorKeys.Manifest

open Text (lines)

/-! ## The rewritten text -/

/-- When sorting rewrites a manifest, and to what. -/
theorem sort_eq_rewritten_iff {content path text : String} {n : Nat} {doc deps : Toml.Table}
    (hdoc : Toml.parseWithDateTimes? content.toList = some doc)
    (hdeps : doc.get? "dependencies" = some (.table deps)) :
    sort content path = .ok ⟨some text, n⟩ ↔
      deps.keys ≠ sortedNames deps.keys ∧ (lines content.toList).any isDottedHeader = false ∧
      (∃ ls, replaceBody (lines content.toList) (entryLines deps) = some ls ∧
        text = String.ofList (joinLines ls ++ lastLineFeed content.toList)) ∧ n = deps.length := by
  unfold sort
  simp only [hdoc, hdeps]
  constructor
  · intro h
    split at h
    · cases h
    · next hkeys =>
      split at h
      · cases h
      · next hdotted =>
        split at h
        · cases h
        · next ls hls =>
          cases h
          exact ⟨hkeys, by simpa using hdotted, ⟨ls, hls, rfl⟩, rfl⟩
  · rintro ⟨hkeys, hdotted, ⟨ls, hls, rfl⟩, rfl⟩
    rw [if_neg hkeys, if_neg (by simp [hdotted]), hls]
    rfl

/-- Dependencies that stand in order are left alone. -/
theorem sort_of_sorted {content path : String} {doc deps : Toml.Table}
    (hdoc : Toml.parseWithDateTimes? content.toList = some doc)
    (hdeps : doc.get? "dependencies" = some (.table deps))
    (hkeys : deps.keys = sortedNames deps.keys) :
    sort content path = .ok ⟨none, deps.length⟩ := by
  unfold sort
  simp only [hdoc, hdeps]
  rw [if_pos hkeys]

/-- **Sorting keeps what a manifest says** where the reader comes to the places at which its lines
are cut: the rewritten text is read as the same document with the dependencies in sorted order, and
sorting it again changes nothing. -/
theorem sort_keeps_document {content path text : String} {n : Nat} {doc deps : Toml.Table}
    {before header body after : List Char} {a defs b : List Toml.Statement}
    (hsort : sort content path = .ok ⟨some text, n⟩)
    (hdoc : Toml.parseWithDateTimes? content.toList = some doc)
    (hdeps : doc.get? "dependencies" = some (.table deps))
    (hcut : Cut content.toList before header body after)
    (hread : ReadAs before header body after a defs b) (hw : Writable deps) :
    Toml.parseWithDateTimes? text.toList =
        some (doc.set "dependencies" (.table (sortedTable deps))) ∧
      (sortedTable deps).Perm deps ∧ (sortedTable deps).keys = sortedNames deps.keys ∧
      sort text path = .ok ⟨none, n⟩ := by
  obtain ⟨hunsorted, -, ⟨ls, hls, rfl⟩, rfl⟩ := (sort_eq_rewritten_iff hdoc hdeps).mp hsort
  have hne : deps ≠ [] := by
    rintro rfl
    exact hunsorted (List.mergeSort_nil).symm
  obtain ⟨hnodup, hparse⟩ :=
    hread.parseWithDateTimes?_rewritten hcut hdoc hdeps hw hne hls
  rw [← String.toList_ofList (l := joinLines ls ++ lastLineFeed content.toList)] at hparse
  have hkeys := keys_sortedTable hnodup
  have hperm := sortedTable_perm hnodup
  refine ⟨hparse, hperm, hkeys, ?_⟩
  rw [← hperm.length_eq]
  exact sort_of_sorted hparse (Toml.Table.get?_set_self hdeps)
    (by rw [hkeys, sortedNames_sortedNames])

/-- A manifest with an array over several lines, none of which opens a bracket. -/
def closedLine : String :=
  "[package]\nname='p'\n[dependencies]\nz=['1',\n'2']\na=true\n[features]\nf=true\n"

def closedLineSorted : String :=
  "[package]\nname='p'\n[dependencies]\na = true\nz = [\"1\", \"2\"]\n\n[features]\nf=true\n"

def closedLineDocument (deps : Toml.Table) : Toml.Table :=
  [("package", .table [("name", .string "p")]), ("dependencies", .table deps),
    ("features", .table [("f", .boolean true)])]

def closedLineTable : Toml.Table :=
  [("z", .array [.string "1", .string "2"]), ("a", .boolean true)]

theorem sort_closedLine : Toml.parseWithDateTimes? closedLine.toList =
    some (closedLineDocument closedLineTable) ∧
      sort closedLine "Cargo.toml" = .ok ⟨some closedLineSorted, 2⟩ := by
  have hdoc : Toml.parseWithDateTimes? closedLine.toList =
      some (closedLineDocument closedLineTable) := by cbv
  have hentries : entryLines closedLineTable = ["a = true".toList, "z = [\"1\", \"2\"]".toList] := by
    cbv
  have hlines : replaceBody (lines closedLine.toList)
      ["a = true".toList, "z = [\"1\", \"2\"]".toList] = some ["[package]".toList,
        "name='p'".toList, "[dependencies]".toList, "a = true".toList,
        "z = [\"1\", \"2\"]".toList, [], "[features]".toList, "f=true".toList] := by
    decide +kernel
  have hunsorted : closedLineTable.keys ≠ sortedNames closedLineTable.keys := by
    cbv
    decide
  refine ⟨hdoc, (sort_eq_rewritten_iff hdoc rfl).mpr ⟨hunsorted, by decide +kernel, ?_, rfl⟩⟩
  rw [hentries, hlines]
  exact ⟨_, rfl, by decide +kernel⟩

theorem cut_closedLine : Cut closedLine.toList "[package]\nname='p'\n".toList
    "[dependencies]\n".toList "z=['1',\n'2']\na=true\n".toList "[features]\nf=true\n".toList where
  parts := by cbv
  before_whole := Or.inr (by decide)
  header_whole := Or.inr (by decide)
  body_whole := Or.inr (Or.inr (by decide))
  before_lines := by decide
  header_line := ⟨"[dependencies]".toList, by decide, by decide⟩
  body_lines := by decide
  after_line := by decide

theorem readAs_closedLine : ReadAs "[package]\nname='p'\n".toList "[dependencies]\n".toList
    "z=['1',\n'2']\na=true\n".toList "[features]\nf=true\n".toList
    [.header [] "package", .definition [] "name" (.string "p")]
    (Toml.definitionsOf closedLineTable)
    [.header [] "features", .definition [] "f" (.boolean true)] where
  before := .statement (by cbv) (.statement (by cbv) (.refl _))
  header := .statement (by cbv) (.refl _)
  body := .statement (by cbv) (.statement (by cbv) (.refl _))
  after := by cbv
  body_defines := by decide
  before_apart := by decide
  after_apart := by decide

theorem writable_closedLine : Writable closedLineTable where
  names := by
    simp only [closedLineTable, List.forall_mem_cons, List.not_mem_nil, false_imp_iff,
      implies_true, and_true]
    decide
  depth := by decide
  first := by
    cbv
    decide

/-- Its dependencies are sorted once and for all. -/
theorem sort_keeps_document_closedLine :
    Toml.parseWithDateTimes? closedLineSorted.toList = some
        ((closedLineDocument closedLineTable).set "dependencies"
          (.table (sortedTable closedLineTable))) ∧
      sortedTable closedLineTable = [("a", .boolean true), ("z", .array [.string "1", .string "2"])] ∧
      sort closedLineSorted "Cargo.toml" = .ok ⟨none, 2⟩ := by
  obtain ⟨hdoc, hsort⟩ := sort_closedLine
  obtain ⟨hparse, -, -, hagain⟩ := sort_keeps_document hsort hdoc rfl cut_closedLine
    readAs_closedLine writable_closedLine
  exact ⟨hparse, by cbv, hagain⟩

/-! ## An array over several lines -/

/-- A manifest with an array that goes over several lines, one of which opens a bracket. -/
def bracketLine : String := "[dependencies]\nz=[\n['x'],\n]\na='1'\n"

/-- What sorting makes of it: the array's lines from that bracket on are left behind. -/
def bracketLineSorted : String :=
  "[dependencies]\na = \"1\"\nz = [[\"x\"]]\n\n['x'],\n]\na='1'\n"

def bracketLineTable : Toml.Table := [("z", .array [.array [.string "x"]]), ("a", .string "1")]

/-- A manifest that is TOML is rewritten to a text that is not. -/
theorem bracket_line_breaks_manifest :
    sort bracketLine "Cargo.toml" = .ok ⟨some bracketLineSorted, 2⟩ ∧
      sort bracketLineSorted "Cargo.toml" = .error (.parse "Cargo.toml") := by
  constructor
  · have hdoc : Toml.parseWithDateTimes? bracketLine.toList =
        some [("dependencies", .table bracketLineTable)] := by cbv
    have hentries : entryLines bracketLineTable =
        ["a = \"1\"".toList, "z = [[\"x\"]]".toList] := by cbv
    have hlines : replaceBody (lines bracketLine.toList)
        ["a = \"1\"".toList, "z = [[\"x\"]]".toList] = some ["[dependencies]".toList,
          "a = \"1\"".toList, "z = [[\"x\"]]".toList, [], "['x'],".toList, "]".toList,
          "a='1'".toList] := by decide +kernel
    have hunsorted : bracketLineTable.keys ≠ sortedNames bracketLineTable.keys := by
      cbv
      decide
    refine (sort_eq_rewritten_iff hdoc rfl).mpr ⟨hunsorted, by decide +kernel, ?_, rfl⟩
    rw [hentries, hlines]
    exact ⟨_, rfl, by decide +kernel⟩
  · have hparse : Toml.parseWithDateTimes? bracketLineSorted.toList = none := by cbv
    unfold sort
    simp only [hparse]

end ValidatorKeys.Manifest
