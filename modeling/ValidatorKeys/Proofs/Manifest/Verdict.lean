import ValidatorKeys.CommandLine.Outcome
import ValidatorKeys.Proofs.Dialogue.Conduct
import ValidatorKeys.Proofs.Manifest.Sorting

/-!
# Whether a manifest counts as sorted

The order of the dependencies is read from the document, but their section is looked for among the
lines of the text.  A line that opens the section, or the section of a single dependency, is needed
for anything to be changed or refused; where there is none, dependencies count as sorted in any
order.  A check says by its exit code what sorting would do.

    sort text fails            ↔  out of order, and some line opens the section of one dependency
    sort text changes nothing  ↔  in order, or no line opens a section of dependencies
    exit code of a check = 0   ↔  sort text changes nothing

TOML has other spellings for the same header, with blanks or quotes between its brackets, and these
are not found.
-/

namespace ValidatorKeys

namespace Manifest

open Text (lines)

/-! ## Definitions -/

/-- Dependencies whose names stand in sorted order. -/
def InOrder (deps : Toml.Table) : Prop := deps.keys = sortedNames deps.keys

/-- Some line opens the section of dependencies or the section of a single one. -/
def HasHeader (text : List Char) : Prop :=
  ∃ l ∈ lines text, isDependencyHeader l = true ∨ isDottedHeader l = true

theorem not_hasHeader_iff {text : List Char} : ¬HasHeader text ↔
    (∀ l ∈ lines text, isDependencyHeader l = false) ∧ (lines text).any isDottedHeader = false := by
  simp [HasHeader, not_or, imp_and, forall_and]

/-! ## Sorting a text -/

theorem outcome_text_eq_none_iff (o : Outcome) : o.changed = false ↔ o.text = none := by
  simp [Outcome.changed]

section

variable {content path : String} {doc deps : Toml.Table}
  (hdoc : Toml.parseWithDateTimes? content.toList = some doc)
  (hdeps : doc.get? "dependencies" = some (.table deps))

include hdoc hdeps

/-- When sorting fails. -/
theorem sort_eq_error_iff {e : Error} : sort content path = .error e ↔
    ¬InOrder deps ∧ (lines content.toList).any isDottedHeader = true ∧
      e = .dottedSections path := by
  unfold sort
  simp only [hdoc, hdeps]
  constructor
  · intro h
    split at h
    · cases h
    · next hunsorted =>
      split at h
      · next hdotted =>
        cases h
        exact ⟨hunsorted, hdotted, rfl⟩
      · split at h <;> cases h
  · rintro ⟨hunsorted, hdotted, rfl⟩
    rw [if_neg (show ¬deps.keys = sortedNames deps.keys from hunsorted), if_pos hdotted]

/-- When sorting leaves a manifest alone. -/
theorem sort_eq_unchanged_iff : sort content path = .ok ⟨none, deps.length⟩ ↔
    InOrder deps ∨ ¬HasHeader content.toList := by
  rw [not_hasHeader_iff, ← replaceBody_eq_none_iff _ (entryLines deps)]
  constructor
  · intro h
    refine or_iff_not_imp_left.mpr fun hunsorted => ?_
    unfold sort at h
    simp only [hdoc, hdeps] at h
    rw [if_neg (show ¬deps.keys = sortedNames deps.keys from hunsorted)] at h
    split at h
    · cases h
    · next hdotted =>
      split at h
      · next hnone => exact ⟨hnone, by simpa using hdotted⟩
      · cases h
  · rintro (hsorted | ⟨hnone, hdotted⟩)
    · exact sort_of_sorted hdoc hdeps hsorted
    · unfold sort
      simp only [hdoc, hdeps, hnone, hdotted]
      split <;> rfl

/-- Every dependency is counted. -/
theorem sort_entries {o : Outcome} (h : sort content path = .ok o) : o.entries = deps.length := by
  unfold sort at h
  simp only [hdoc, hdeps] at h
  split at h
  · cases h
    rfl
  · split at h
    · cases h
    · split at h <;> cases h <;> rfl

/-- **When nothing is changed**: the dependencies stand in order, or no line opens a section of
theirs. -/
theorem changed_eq_false_iff {o : Outcome} (h : sort content path = .ok o) :
    o.changed = false ↔ InOrder deps ∨ ¬HasHeader content.toList := by
  have hunchanged := @sort_eq_unchanged_iff content path doc deps hdoc hdeps
  obtain ⟨text, n⟩ := o
  have hn : n = deps.length := sort_entries hdoc hdeps h
  rw [outcome_text_eq_none_iff, ← hunchanged, h]
  simp [hn]

end

/-! ## Checking a file -/

/-- A check reads the manifest and leaves the files as they are. -/
theorem sortFile_checkOnly {t : FileTree} {cwd path content : String}
    (h : t.readText cwd path = .ok content) :
    sortFile t cwd path true = (sort content path).map fun o => (o, t) := by
  rw [sortFile, h]
  simp only
  cases sort content path with
  | error e => rfl
  | ok o =>
    obtain ⟨text, n⟩ := o
    cases text <;> rfl

end Manifest

open Manifest
open Text (lines)

namespace Tool

variable {σ : Type} {tool : Tool σ} {s : Session σ} {path content : String}

/-- A check of a manifest that can be read ends by what sorting it would do. -/
theorem sortDeps_checkOnly (h : s.files.readText tool.environment.directory path = .ok content) :
    ∃ x, tool.sortDeps path true s = (x, s) ∧
      match sort content path with
      | .error e => x = .error (.manifest e)
      | .ok o => ∃ y, x = .ok y ∧ y.succeeded = !o.changed := by
  rw [sortDeps, Run.bind_ok (show (get : Run σ Failure _) s = (.ok s, s) from rfl),
    sortFile_checkOnly h]
  cases sort content path with
  | error e => exact ⟨_, rfl, rfl⟩
  | ok o =>
    cases hchanged : o.changed with
    | false =>
      simp only [Except.map, hchanged]
      exact ⟨_, rfl, _, rfl, rfl⟩
    | true =>
      simp only [Except.map, hchanged]
      exact ⟨_, rfl, _, rfl, rfl⟩

/-- **A check succeeds exactly when sorting would change nothing**, and leaves the session as it
is. -/
theorem perform_checkOnly {i : Invocation} (htask : i.task = .sortDeps path true)
    (h : s.files.readText tool.environment.directory path = .ok content) :
    (tool.perform i s).2 = s ∧ ((tool.perform i s).1.exitCode = 0 ↔
      ∃ o, sort content path = .ok o ∧ o.changed = false) := by
  obtain ⟨x, hrun, hx⟩ := sortDeps_checkOnly h
  have hrun : (tool.task i).run s = (x, s) := by
    rw [task, htask]
    exact hrun
  cases hsort : sort content path with
  | error e =>
    rw [hsort] at hx
    subst hx
    have hperform : tool.perform i s = (.ofFailure (.manifest e), s) := by
      rw [perform, hrun]
    rw [hperform]
    exact ⟨rfl, by simp [ValidatorKeys.Outcome.ofFailure, ValidatorKeys.Outcome.exitCode]⟩
  | ok o =>
    rw [hsort] at hx
    obtain ⟨y, rfl, hy⟩ := hx
    have hperform : tool.perform i s = (y, s) := by
      rw [perform, hrun]
    rw [hperform]
    exact ⟨rfl, by simp [ValidatorKeys.Outcome.exitCode, hy]⟩

end Tool

/-! ## Top theorem -/

/-- **What sorting tells about the order.**  It fails exactly when the dependencies are out of order
and some line opens the section of a single one.  Where it succeeds, it changes nothing exactly when
they stand in order or no line opens a section of theirs.  A check leaves the session as it is, and
its exit code tells the same.  So where a line opens the section, or that of a single dependency,
the verdict is right. -/
theorem check_tells_order {content : String} {doc deps : Toml.Table}
    (hdoc : Toml.parseWithDateTimes? content.toList = some doc)
    (hdeps : doc.get? "dependencies" = some (.table deps)) :
    (∀ path e, sort content path = .error e ↔
      ¬InOrder deps ∧ (lines content.toList).any isDottedHeader = true ∧
        e = .dottedSections path) ∧
    (∀ path, sort content path = .ok ⟨none, deps.length⟩ ↔
      InOrder deps ∨ ¬HasHeader content.toList) ∧
    (∀ path o, sort content path = .ok o → o.entries = deps.length ∧
      (o.changed = false ↔ InOrder deps ∨ ¬HasHeader content.toList) ∧
      (o.text = none ↔ InOrder deps ∨ ¬HasHeader content.toList)) ∧
    ∀ (σ : Type) (tool : Tool σ) (i : Invocation) (s : Session σ) (path : String),
      i.task = .sortDeps path true →
      s.files.readText tool.environment.directory path = .ok content →
      sortFile s.files tool.environment.directory path true =
          (sort content path).map (fun o => (o, s.files)) ∧
        (tool.perform i s).2 = s ∧
        ((tool.perform i s).1.exitCode = 0 ↔ InOrder deps ∨ ¬HasHeader content.toList) := by
  refine ⟨fun _ _ => sort_eq_error_iff hdoc hdeps, fun _ => sort_eq_unchanged_iff hdoc hdeps,
    fun path o h => ⟨sort_entries hdoc hdeps h, changed_eq_false_iff hdoc hdeps h, ?_⟩, ?_⟩
  · rw [← outcome_text_eq_none_iff]
    exact changed_eq_false_iff hdoc hdeps h
  · intro σ tool i s path htask hread
    obtain ⟨hsession, hcode⟩ := Tool.perform_checkOnly htask hread
    refine ⟨sortFile_checkOnly hread, hsession, hcode.trans ⟨?_, fun h => ?_⟩⟩
    · rintro ⟨o, ho, hfalse⟩
      exact (changed_eq_false_iff hdoc hdeps ho).mp hfalse
    · exact ⟨_, (sort_eq_unchanged_iff hdoc hdeps).mpr h, rfl⟩

def outOfOrder (v : Toml.Value) : Toml.Table := [("z", v), ("a", v)]

/-- Each in a section of its own. -/
def sectionsOutOfOrder : String := "[dependencies.z]\npath='1'\n[dependencies.a]\npath='1'\n"

/-- Both in one section, whose header has blanks between its brackets. -/
def blanksInHeader : String := "[ dependencies ]\nz='1'\na='1'\n"

theorem not_inOrder_outOfOrder (v : Toml.Value) : ¬InOrder (outOfOrder v) := by
  have hsorted : sortedNames (outOfOrder v).keys = ["a", "z"] := by
    rw [show (outOfOrder v).keys = ["z", "a"] from rfl]
    cbv
  rw [InOrder, hsorted, show (outOfOrder v).keys = ["z", "a"] from rfl]
  decide

/-- Two sections of single dependencies out of order: sorting fails, and so does the check, which
leaves everything as it is. -/
theorem check_tells_order_sections :
    let deps := outOfOrder (.table [("path", .string "1")])
    let tool : Tool Unit := ⟨⟨"/", []⟩, "x86_64-unknown-linux-gnu", fun _ => Runner.silent⟩
    let i : Invocation := { task := .sortDeps "Cargo.toml" true }
    let s : Session Unit := {
      files := ⟨[(["Cargo.toml"], .file (Text.encode sectionsOutOfOrder) 0o644)]⟩, state := () }
    Invocation.ofArgs ["sort-deps", "--check"] = .ok i ∧
    Toml.parseWithDateTimes? sectionsOutOfOrder.toList = some [("dependencies", .table deps)] ∧
    HasHeader sectionsOutOfOrder.toList ∧ ¬InOrder deps ∧
    sort sectionsOutOfOrder "Cargo.toml" = .error (.dottedSections "Cargo.toml") ∧
    (tool.perform i s).2 = s ∧ (tool.perform i s).1.exitCode ≠ 0 := by
  intro deps tool i s
  have hdoc : Toml.parseWithDateTimes? sectionsOutOfOrder.toList =
      some [("dependencies", .table deps)] := by cbv
  have hunsorted : ¬InOrder deps := not_inOrder_outOfOrder _
  have hline : "[dependencies.z]".toList ∈ lines sectionsOutOfOrder.toList := by decide
  have hdotted : isDottedHeader "[dependencies.z]".toList = true := by decide
  have hheader : HasHeader sectionsOutOfOrder.toList := ⟨_, hline, Or.inr hdotted⟩
  have hread : s.files.readText "/" "Cargo.toml" = .ok sectionsOutOfOrder := by
    decide +kernel
  obtain ⟨herror, -, -, hcheck⟩ := check_tells_order hdoc rfl
  obtain ⟨-, hsession, hcode⟩ := hcheck Unit tool i s "Cargo.toml" rfl hread
  refine ⟨by rfl, hdoc, hheader, hunsorted, ?_, hsession, fun hzero => ?_⟩
  · exact (herror "Cargo.toml" _).mpr ⟨hunsorted, List.any_eq_true.mpr ⟨_, hline, hdotted⟩, rfl⟩
  · exact (hcode.mp hzero).elim hunsorted (absurd hheader)

/-- With blanks in the header dependencies out of order count as sorted, and the check succeeds. -/
theorem blanks_in_header_pass_as_sorted :
    let deps := outOfOrder (.string "1")
    let tool : Tool Unit := ⟨⟨"/", []⟩, "x86_64-unknown-linux-gnu", fun _ => Runner.silent⟩
    let i : Invocation := { task := .sortDeps "Cargo.toml" true }
    let s : Session Unit := {
      files := ⟨[(["Cargo.toml"], .file (Text.encode blanksInHeader) 0o644)]⟩, state := () }
    Invocation.ofArgs ["sort-deps", "--check"] = .ok i ∧
    Toml.parseWithDateTimes? blanksInHeader.toList = some [("dependencies", .table deps)] ∧
    deps.keys ≠ sortedNames deps.keys ∧
    sort blanksInHeader "Cargo.toml" = .ok ⟨none, 2⟩ ∧ (tool.perform i s).1.exitCode = 0 := by
  intro deps tool i s
  have hdoc : Toml.parseWithDateTimes? blanksInHeader.toList =
      some [("dependencies", .table deps)] := by cbv
  have hheader : ¬HasHeader blanksInHeader.toList :=
    not_hasHeader_iff.mpr ⟨by decide, by decide⟩
  have hread : s.files.readText "/" "Cargo.toml" = .ok blanksInHeader := by decide +kernel
  have hsort : sort blanksInHeader "Cargo.toml" = .ok ⟨none, 2⟩ :=
    (sort_eq_unchanged_iff hdoc rfl).mpr (Or.inr hheader)
  have hcode : (tool.perform i s).1.exitCode = 0 :=
    (Tool.perform_checkOnly rfl hread).2.mpr ⟨_, hsort, rfl⟩
  exact ⟨by rfl, hdoc, not_inOrder_outOfOrder _, hsort, hcode⟩

end ValidatorKeys
