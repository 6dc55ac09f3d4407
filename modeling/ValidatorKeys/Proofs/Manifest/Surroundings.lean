import Mathlib
import ValidatorKeys.Proofs.Manifest.Sorting
import ValidatorKeys.Proofs.Text.Endings

/-!
# What stands around the section

Sorting replaces the lines between the header of the dependencies and the next line that opens a
bracket.  The lines around them come out with line feeds as their endings: those in front stand at
the front of the rewritten text, and the rest at its end, exactly when no carriage return was lost
there.

    rewritten = before ++ header ++ "\n" ++ one line for each dependency ++ "\n\n" ++ tail
-/

namespace ValidatorKeys.Manifest

open Text (lines Line splitLines wholeLines unixLines lastEnding)

/-! ## Definitions -/

/-- The lines of a manifest around the body of its section: those in front of the header of the
dependencies, the header, the body, and the tail from the next line that opens a bracket on. -/
structure Parts (text : List Char) (before : List Line) (header : Line) (body tail : List Line) :
    Prop where
  splits : splitLines text = before ++ header :: (body ++ tail)
  before_lines : ∀ l ∈ before, isDependencyHeader l.text = false
  header_line : isDependencyHeader header.text = true
  body_lines : ∀ l ∈ body, opensBracket l.text = false
  tail_line : ∀ l ∈ tail.head?, opensBracket l.text = true

/-- What stands between the header and the tail when the body is replaced: the entries, and a blank
line in front of a tail. -/
def between (deps : Toml.Table) (text : List Char) (tail : List Line) : List Char :=
  '\n' :: joinLines ((sortedTable deps).map fun f => entryLine f.1 f.2) ++
    if tail = [] then lastLineFeed text else ['\n', '\n']

/-! ## Lines with their endings -/

theorem lastLineFeed_eq_lastEnding (text : List Char) :
    lastLineFeed text = lastEnding (splitLines text) := by
  fun_induction splitLines text with
  | case1 => rfl
  | case2 r ih =>
    by_cases hr : r = []
    · subst hr
      rfl
    · rw [lastLineFeed_cons hr, ih, Text.lastEnding_cons _ (Text.splitLines_ne_nil hr)]
  | case3 r ih =>
    by_cases hr : r = []
    · subst hr
      rfl
    · rw [lastLineFeed_cons (by simp), lastLineFeed_cons hr, ih,
        Text.lastEnding_cons _ (Text.splitLines_ne_nil hr)]
  | case4 c r hn hr heq ih =>
    obtain rfl : r = [] := Decidable.byContradiction fun hne => Text.splitLines_ne_nil hne heq
    have hc : c ≠ '\n' := fun hc => hn hc
    simp [lastLineFeed, lastEnding, hc, Text.Ending.unix]
  | case5 c r hn hr l ls heq ih =>
    have hne : r ≠ [] := by
      rintro rfl
      cases heq
    rw [lastLineFeed_cons hne, ih, heq]
    cases ls with
    | nil => rfl
    | cons m ms =>
      rw [Text.lastEnding_cons _ (List.cons_ne_nil m ms),
        Text.lastEnding_cons _ (List.cons_ne_nil m ms)]

/-- Lines that have their endings are joined by them. -/
theorem endedLines_map_text {ls : List Line} (h : ∀ l ∈ ls, l.ending ≠ .missing) :
    endedLines (ls.map Line.text) = unixLines ls := by
  induction ls with
  | nil => rfl
  | cons l ls ih =>
    obtain ⟨hl, hls⟩ := List.forall_mem_cons.mp h
    have hending : l.ending.unix = ['\n'] := by
      cases hcase : l.ending with
      | lineFeed => rfl
      | returnAndFeed => rfl
      | missing => exact absurd hcase hl
    rw [Text.unixLines_cons, hending, ← ih hls]
    simp [endedLines]

theorem joinLines_map_text {ls : List Line} (h : ls.Pairwise fun l _ => l.ending ≠ .missing)
    (hne : ls ≠ []) : joinLines (ls.map Line.text) ++ lastEnding ls = unixLines ls := by
  obtain ⟨front, last, rfl⟩ := List.eq_nil_or_concat ls |>.resolve_left hne
  rw [List.concat_eq_append] at h ⊢
  obtain ⟨-, -, hlast⟩ := List.pairwise_append.mp h
  have hfront : ∀ l ∈ front, l.ending ≠ .missing := fun l hl => hlast l hl last (by simp)
  rw [List.map_append, List.map_singleton, joinLines_append (List.cons_ne_nil last.text []),
    endedLines_map_text hfront]
  simp [joinLines, List.intercalate, lastEnding, unixLines]

/-! ## The parts of a manifest -/

theorem exists_parts {text : List Char} (h : ∃ l ∈ lines text, isDependencyHeader l = true) :
    ∃ before header body tail, Parts text before header body tail := by
  have hne : (splitLines text).dropWhile (fun l => !isDependencyHeader l.text) ≠ [] := by
    obtain ⟨l, hl, hheader⟩ := h
    rw [← Text.map_text_splitLines, List.mem_map] at hl
    obtain ⟨l, hl, rfl⟩ := hl
    rw [Ne, List.dropWhile_eq_nil_iff]
    intro hall
    simpa [hheader] using hall l hl
  obtain ⟨header, rest, hsplit⟩ := List.exists_cons_of_ne_nil hne
  refine ⟨(splitLines text).takeWhile fun l => !isDependencyHeader l.text, header,
    rest.takeWhile fun l => !opensBracket l.text, rest.dropWhile fun l => !opensBracket l.text,
    ?_, fun l hl => ?_, ?_, fun l hl => ?_, fun l hl => ?_⟩
  · rw [List.takeWhile_append_dropWhile, ← hsplit, List.takeWhile_append_dropWhile]
  · simpa using List.mem_takeWhile_imp hl
  · have := List.head?_dropWhile_not (fun l : Line => !isDependencyHeader l.text) (splitLines text)
    rw [hsplit] at this
    simpa using this
  · simpa using List.mem_takeWhile_imp hl
  · have := List.head?_dropWhile_not (fun l : Line => !opensBracket l.text) rest
    rw [Option.mem_def.mp hl] at this
    simpa using this

section

variable {text : List Char} {before body tail : List Line} {header : Line}
  (h : Parts text before header body tail)

include h

/-- The manifest is its parts. -/
theorem Parts.text_eq : text = wholeLines before ++
    (header.text ++ (header.ending.chars ++ (wholeLines body ++ wholeLines tail))) := by
  have := Text.wholeLines_splitLines text
  rw [h.splits] at this
  simpa using this.symm

theorem Parts.before_ended : ∀ l ∈ before, l.ending ≠ .missing := by
  have hpairwise := Text.pairwise_splitLines text
  rw [h.splits] at hpairwise
  obtain ⟨-, -, hbefore⟩ := List.pairwise_append.mp hpairwise
  exact fun l hl => hbefore l hl header List.mem_cons_self

theorem Parts.tail_pairwise : tail.Pairwise fun l _ => l.ending ≠ .missing := by
  have hpairwise := Text.pairwise_splitLines text
  rw [h.splits, ← List.cons_append, ← List.append_assoc] at hpairwise
  exact (List.pairwise_append.mp hpairwise).2.1

theorem Parts.lastLineFeed_eq (htail : tail ≠ []) : lastLineFeed text = lastEnding tail := by
  rw [lastLineFeed_eq_lastEnding, h.splits, ← List.cons_append, ← List.append_assoc, lastEnding,
    lastEnding, List.getLast?_append_of_ne_nil _ htail]

theorem Parts.replaceBody_eq (entries : List (List Char)) :
    replaceBody (lines text) entries = some (before.map Line.text ++ header.text ::
      (entries ++ if tail = [] then [] else [] :: tail.map Line.text)) := by
  have hlines : lines text = before.map Line.text ++ header.text ::
      (body.map Line.text ++ tail.map Line.text) := by
    rw [← Text.map_text_splitLines, h.splits]
    simp
  have htail : ∀ l ∈ (tail.map Line.text).head?, opensBracket l = true := by
    cases tail with
    | nil => simp
    | cons l ls => simpa using h.tail_line
  rw [hlines, replaceBody_append (List.forall_mem_map.mpr h.before_lines) h.header_line
    (List.forall_mem_map.mpr h.body_lines) htail]
  simp

/-- **The rewritten text**: the lines in front and the tail with line feeds, and the header and the
entries between them. -/
theorem Parts.rewritten_eq {entries : List (List Char)} (hentries : entries ≠ []) :
    joinLines (before.map Line.text ++ header.text ::
      (entries ++ if tail = [] then [] else [] :: tail.map Line.text)) ++ lastLineFeed text =
    unixLines before ++ (header.text ++ ('\n' :: joinLines entries ++
      (if tail = [] then lastLineFeed text else ['\n', '\n']) ++ unixLines tail)) := by
  rw [joinLines_append (List.cons_ne_nil _ _), endedLines_map_text h.before_ended,
    joinLines_cons (by simp [hentries]), List.append_assoc]
  by_cases htail : tail = []
  · subst htail
    simp [unixLines]
  · have hmap : tail.map Line.text ≠ [] := by simpa using htail
    rw [if_neg htail, if_neg htail, joinLines_append (List.cons_ne_nil _ _), joinLines_cons hmap,
      ← joinLines_lineFeed hentries, ← joinLines_map_text h.tail_pairwise htail,
      h.lastLineFeed_eq htail]
    simp

end

/-! ## Sorting -/

/-- A manifest that is rewritten has a table of dependencies. -/
theorem exists_dependencies {content path text : String} {n : Nat}
    (h : sort content path = .ok ⟨some text, n⟩) :
    ∃ doc deps, Toml.parseWithDateTimes? content.toList = some doc ∧
      doc.get? "dependencies" = some (.table deps) := by
  unfold sort at h
  dsimp only at h
  split at h
  · cases h
  · next doc hdoc =>
    split at h
    · next deps hdeps => exact ⟨doc, deps, hdoc, hdeps⟩
    · cases h

theorem entryLines_ne_nil {deps : Toml.Table} (hnodup : (deps.map Prod.fst).Nodup)
    (h : deps.keys ≠ sortedNames deps.keys) : entryLines deps ≠ [] := by
  have hdeps : deps ≠ [] := by
    rintro rfl
    exact h List.mergeSort_nil.symm
  have hsorted : sortedTable deps ≠ [] := fun hnil =>
    hdeps (hnil ▸ sortedTable_perm hnodup).nil_eq.symm
  rw [entryLines_eq_map]
  simpa using hsorted

/-- The tail stands at the end exactly when no carriage return is lost in it. -/
theorem wholeLines_suffix_between_iff (front : List Char) (deps : Toml.Table) (text : List Char)
    (tail : List Line) : wholeLines tail <:+ front ++ (between deps text tail ++ unixLines tail) ↔
      ∀ l ∈ tail, l.ending ≠ .returnAndFeed := by
  by_cases htail : tail = []
  · subst htail
    simp [wholeLines]
  · -- the blank line in front of the tail keeps its lines apart from the entries
    have hbetween : front ++ (between deps text tail ++ unixLines tail) =
        (front ++ ('\n' :: joinLines ((sortedTable deps).map fun f => entryLine f.1 f.2) ++
          ['\n'])) ++ '\n' :: unixLines tail := by
      simp [between, htail]
    rw [hbetween, Text.wholeLines_suffix_iff]

/-- **Sorting leaves the rest of a manifest as it is, but for carriage returns.**  The rewritten
text is that of the lines in front of the header, the header, one line for each dependency and the
tail, where every ending is a line feed.  So what stands up to the end of the header's text stays in
front exactly when no line in front of the header ends in a carriage return, and the tail stays at
the end exactly when none of its lines does. -/
theorem sort_keeps_surroundings {content path text : String} {n : Nat}
    (hsort : sort content path = .ok ⟨some text, n⟩) :
    ∃ doc deps : Toml.Table,
      Toml.parseWithDateTimes? content.toList = some doc ∧
      doc.get? "dependencies" = some (.table deps) ∧
      (sortedTable deps).Perm deps ∧ (sortedTable deps).keys = sortedNames deps.keys ∧
      (∃ before header body tail, Parts content.toList before header body tail) ∧
      ∀ before header body tail, Parts content.toList before header body tail →
        content.toList = wholeLines before ++
          (header.text ++ (header.ending.chars ++ (wholeLines body ++ wholeLines tail))) ∧
        text.toList = unixLines before ++
          (header.text ++ (between deps content.toList tail ++ unixLines tail)) ∧
        (wholeLines before ++ header.text <+: text.toList ↔
          ∀ l ∈ before, l.ending ≠ .returnAndFeed) ∧
        (wholeLines tail <:+ text.toList ↔ ∀ l ∈ tail, l.ending ≠ .returnAndFeed) := by
  obtain ⟨doc, deps, hdoc, hdeps⟩ := exists_dependencies hsort
  obtain ⟨hunsorted, -, ⟨ls, hls, rfl⟩, -⟩ := (sort_eq_rewritten_iff hdoc hdeps).mp hsort
  have hnodup := nodup_dependencies hdoc hdeps
  have hheader : ∃ l ∈ lines content.toList, isDependencyHeader l = true := by
    by_contra hnone
    have := (replaceBody_eq_none_iff (lines content.toList) (entryLines deps)).mpr
      (by simpa using hnone)
    rw [hls] at this
    cases this
  refine ⟨doc, deps, hdoc, hdeps, sortedTable_perm hnodup, keys_sortedTable hnodup,
    exists_parts hheader, fun before header body tail hparts => ?_⟩
  obtain rfl := Option.some.inj (hls.symm.trans (hparts.replaceBody_eq _))
  have htext := hparts.rewritten_eq (entryLines_ne_nil hnodup hunsorted)
  rw [entryLines_eq_map] at htext
  rw [String.toList_ofList, entryLines_eq_map, htext]
  refine ⟨hparts.text_eq, rfl, Text.wholeLines_prefix_iff _ _, ?_⟩
  rw [← List.append_assoc]
  exact wholeLines_suffix_between_iff _ _ _ _

/-- A manifest with lines around its section: those in front stay, and so do those behind. -/
theorem sort_keeps_surroundings_closedLine :
    sort closedLine "Cargo.toml" = .ok ⟨some closedLineSorted, 2⟩ ∧
      "[package]\nname='p'\n[dependencies]".toList <+: closedLineSorted.toList ∧
      "[features]\nf=true\n".toList <:+ closedLineSorted.toList := by
  obtain ⟨-, hsort⟩ := sort_closedLine
  obtain ⟨_, _, -, -, -, -, -, hparts⟩ := sort_keeps_surroundings hsort
  obtain ⟨-, -, hfront, htail⟩ := hparts
    [⟨"[package]".toList, .lineFeed⟩, ⟨"name='p'".toList, .lineFeed⟩]
    ⟨"[dependencies]".toList, .lineFeed⟩
    [⟨"z=['1',".toList, .lineFeed⟩, ⟨"'2']".toList, .lineFeed⟩, ⟨"a=true".toList, .lineFeed⟩]
    [⟨"[features]".toList, .lineFeed⟩, ⟨"f=true".toList, .lineFeed⟩]
    ⟨by decide +kernel, by decide, by decide, by decide, by decide⟩
  exact ⟨hsort, hfront.mpr (by decide), htail.mpr (by decide)⟩

/-- A section with a line behind it that ends in a carriage return and a line feed. -/
def returnBehind : String := "[dependencies]\nz='1'\na='1'\n[x]\r\n"

/-- What sorting makes of it. -/
def returnBehindSorted : String := "[dependencies]\na = \"1\"\nz = \"1\"\n\n[x]\n"

def returnBehindTable : Toml.Table := [("z", .string "1"), ("a", .string "1")]

/-- A line behind the section loses its carriage return. -/
theorem carriage_return_behind_section_lost :
    sort returnBehind "Cargo.toml" = .ok ⟨some returnBehindSorted, 2⟩ ∧
      Parts returnBehind.toList [] ⟨"[dependencies]".toList, .lineFeed⟩
        [⟨"z='1'".toList, .lineFeed⟩, ⟨"a='1'".toList, .lineFeed⟩]
        [⟨"[x]".toList, .returnAndFeed⟩] ∧
      ¬"[x]\r\n".toList <:+ returnBehindSorted.toList := by
  have hdoc : Toml.parseWithDateTimes? returnBehind.toList =
      some [("dependencies", .table returnBehindTable), ("x", .table [])] := by cbv
  have hentries : entryLines returnBehindTable = ["a = \"1\"".toList, "z = \"1\"".toList] := by
    cbv
  have hunsorted : returnBehindTable.keys ≠ sortedNames returnBehindTable.keys := by
    cbv
    decide
  have hparts : Parts returnBehind.toList [] ⟨"[dependencies]".toList, .lineFeed⟩
      [⟨"z='1'".toList, .lineFeed⟩, ⟨"a='1'".toList, .lineFeed⟩]
      [⟨"[x]".toList, .returnAndFeed⟩] :=
    ⟨by decide +kernel, by decide, by decide, by decide, by decide⟩
  have hlines := hparts.replaceBody_eq (entryLines returnBehindTable)
  refine ⟨(sort_eq_rewritten_iff hdoc rfl).mpr ⟨hunsorted, by decide +kernel, ?_, rfl⟩, hparts,
    by decide⟩
  rw [hlines, hentries]
  exact ⟨_, rfl, by decide +kernel⟩

end ValidatorKeys.Manifest
