import Mathlib.Data.String.Basic
import ValidatorKeys.Proofs.File.Following
import ValidatorKeys.Proofs.File.Paths

/-!
# Absolute names

A path as it is seen from a directory is the place where it starts with its pieces behind it, and
made absolute it is the same but for the pieces `.` and doubled slashes.  Nothing is written that
was not written before, so the absolute path is not too long where the other is not, and leads to
the same location from every directory.

    join (join a b) c        = join a (join b c)
    pieces (join cwd p)      = pieces (anchor cwd p) ++ pieces p
    pieces (absolute p)      = pieces (anchor cwd p) ++ plainPieces p
    AbsoluteName (join cwd p) (absolute p)
-/

namespace ValidatorKeys.Path

/-! ## Definitions -/

/-- The pieces of a path but for `.`. -/
def plainPieces (p : String) : List String := (pieces p).filter (· ≠ ".")

/-- `q` is an absolute name of what `p` names. -/
structure AbsoluteName (p q : String) : Prop where
  absolute : isAbsolute q = true
  parts_eq : parts q = parts p
  /-- Where `p` leads from somewhere, `q` leads from everywhere. -/
  locate : ∀ (t : FileTree) (cwd other : String) (l : Location),
    t.locate cwd p = .ok l → t.locate other q = .ok l

/-! ## Joining -/

theorem behind_behind_append (a b : String) : behind (behind a ++ b) = behind a ++ behind b := by
  by_cases hb : b = ""
  · subst hb
    rw [String.append_empty, behind_behind]
    exact String.append_empty.symm
  · have hne : behind a ++ b ≠ "" := fun h => hb (String.append_eq_empty_iff.mp h).2
    rw [behind.eq_def (behind a ++ b), behind.eq_def b, endsInSlash_append hb]
    cases endsInSlash b with
    | true => simp
    | false => simp [hne, hb, String.append_assoc]

/-- **It makes no difference in which order paths are joined.** -/
theorem join_join (a b c : String) : join (join a b) c = join a (join b c) := by
  cases hc : isAbsolute c with
  | true => rw [join_absolute _ c hc, join_absolute _ c hc, join_absolute _ c hc]
  | false =>
    have hjoin := isAbsolute_join hc b
    cases hb : isAbsolute b with
    | true =>
      rw [hb] at hjoin
      rw [join_absolute _ b hb, join_absolute _ _ hjoin]
    | false =>
      rw [hb] at hjoin
      rw [join_eq hjoin, join_eq hc, join_eq hc, join_eq hb, behind_behind_append,
        String.append_assoc]

/-! ## Where a path starts -/

theorem behind_of_endsInSlash {base : String} (h : endsInSlash base = true) :
    behind base = base := by
  rw [behind, if_pos (Or.inr h)]

/-- An absolute path begins with the one slash or the two slashes at which it starts. -/
theorem exists_lead {p : String} (hp : isAbsolute p = true) (cwd : String) :
    ∃ lead rest, p = lead ++ rest ∧ anchor cwd p = lead ∧ (lead = "/" ∨ lead = "//") := by
  cases hdouble : hasDoubleRoot p with
  | true =>
    obtain ⟨r, heq, -⟩ := (hasDoubleRoot_iff p).mp hdouble
    refine ⟨"//", String.ofList r, String.toList_inj.mp (by simp [heq]), ?_, Or.inr rfl⟩
    rw [anchor, hdouble, if_pos rfl]
  | false =>
    have hanchor : anchor cwd p = "/" := by
      rw [anchor, hdouble, hp, if_neg Bool.false_ne_true, if_pos rfl]
    rw [isAbsolute, beq_iff_eq] at hp
    obtain ⟨r, heq⟩ := List.head?_eq_some_iff.mp hp
    exact ⟨"/", String.ofList r, String.toList_inj.mp (by simp [heq]), hanchor, Or.inl rfl⟩

/-- **A path seen from a directory** is the place where it starts and a rest with its pieces. -/
theorem exists_rest (cwd p : String) : ∃ rest, join cwd p = behind (anchor cwd p) ++ rest ∧
    pieces rest = pieces p ∧ (endsInSlash p = true → rest = "" ∨ endsInSlash rest = true) := by
  cases habsolute : isAbsolute p with
  | false =>
    rw [anchor_of_relative habsolute, join_eq habsolute]
    exact ⟨p, rfl, rfl, Or.inr⟩
  | true =>
    obtain ⟨lead, rest, hp, hanchor, hlead⟩ := exists_lead habsolute cwd
    obtain ⟨hslash, hnone⟩ : endsInSlash lead = true ∧ pieces lead = [] := by
      rcases hlead with rfl | rfl <;> exact ⟨by decide, rfl⟩
    have hbehind := behind_of_endsInSlash hslash
    rw [join_absolute cwd p habsolute, hanchor, hbehind, hp]
    refine ⟨rest, rfl, ?_, fun hend => ?_⟩
    · conv_rhs => rw [← hbehind, pieces_behind_append, hnone, List.nil_append]
    · by_cases hrest : rest = ""
      · exact Or.inl hrest
      · rw [endsInSlash_append hrest] at hend
        exact Or.inr hend

theorem pieces_join_anchor (cwd p : String) :
    pieces (join cwd p) = pieces (anchor cwd p) ++ pieces p := by
  obtain ⟨rest, hjoin, hpieces, -⟩ := exists_rest cwd p
  rw [hjoin, pieces_behind_append, hpieces]

theorem isAbsolute_anchor {cwd : String} (hcwd : isAbsolute cwd = true) (p : String) :
    isAbsolute (anchor cwd p) = true := by
  unfold anchor
  split
  · decide
  · split
    · decide
    · exact hcwd

theorem isAbsolute_join_of_absolute {cwd : String} (hcwd : isAbsolute cwd = true) (p : String) :
    isAbsolute (join cwd p) = true := by
  cases hp : isAbsolute p with
  | true => rw [join_absolute cwd p hp, hp]
  | false => rw [isAbsolute_join hp, hcwd]

/-! ## Joined pieces -/

theorem plainParts_eq (p : String) : plainParts p = (plainPieces p).map partOfPiece := rfl

theorem pieces_singleton {s : String} (hne : s ≠ "") (hslash : '/' ∉ s.toList) :
    pieces s = [s] := by
  have hsplit : Text.splitAt '/' s.toList = [s.toList] := by
    have hone : ∀ l ∈ [s.toList], '/' ∉ l := List.forall_mem_singleton.mpr hslash
    rw [← Text.splitAt_intercalate hone (List.cons_ne_nil _ _), List.intercalate_singleton]
  rw [pieces, hsplit]
  simp [hne]

section

variable {ss : List String} (hss : ∀ s ∈ ss, s ≠ "" ∧ '/' ∉ s.toList)

include hss

theorem pieces_joinParts (base : String) :
    pieces (joinParts base (ss.map partOfPiece)) = pieces base ++ ss := by
  induction ss generalizing base with
  | nil => exact (List.append_nil _).symm
  | cons s ss ih =>
    rw [List.forall_mem_cons] at hss
    obtain ⟨⟨hne, hslash⟩, hss⟩ := hss
    rw [List.map_cons, joinParts, List.foldl_cons, ← joinParts, joinPart_partOfPiece, ih hss,
      pieces_join (isAbsolute_of_not_mem hslash), pieces_singleton hne hslash, List.append_assoc,
      List.singleton_append]

theorem isAbsolute_joinParts (base : String) :
    isAbsolute (joinParts base (ss.map partOfPiece)) = isAbsolute base := by
  induction ss generalizing base with
  | nil => rfl
  | cons s ss ih =>
    rw [List.forall_mem_cons] at hss
    rw [List.map_cons, joinParts, List.foldl_cons, ← joinParts, joinPart_partOfPiece, ih hss.2,
      isAbsolute_join (isAbsolute_of_not_mem hss.1.2)]

/-- Pieces behind a base are written with one slash between them. -/
theorem toList_joinParts (hne : ss ≠ []) (base : String) :
    (joinParts base (ss.map partOfPiece)).toList =
      (behind base).toList ++ List.intercalate ['/'] (ss.map String.toList) := by
  induction ss generalizing base with
  | nil => exact absurd rfl hne
  | cons s ss ih =>
    rw [List.forall_mem_cons] at hss
    obtain ⟨⟨hs, hslash⟩, hss⟩ := hss
    have hjoin : join base s = behind base ++ s := join_eq (isAbsolute_of_not_mem hslash) base
    rw [List.map_cons, joinParts, List.foldl_cons, ← joinParts, joinPart_partOfPiece, hjoin,
      List.map_cons]
    by_cases hnil : ss = []
    · subst hnil
      rw [List.map_nil, List.map_nil, List.intercalate_singleton]
      exact String.toList_append
    · have hbehind : behind s = s ++ "/" := by
        rw [behind, if_neg (by simp [hs, endsInSlash_of_not_mem hslash])]
      rw [ih hss hnil, behind_behind_append, hbehind,
        List.intercalate_cons_of_ne_nil (by simpa using hnil)]
      simp [String.toList_append]

end

/-! ## What is written -/

theorem of_mem_plainPieces (p : String) : ∀ s ∈ plainPieces p, s ≠ "" ∧ '/' ∉ s.toList :=
  fun _ hs => of_mem_pieces (List.mem_filter.mp hs).1

/-- Leaving out texts, each with one separator, leaves out characters. -/
theorem intercalate_sublist (sep : List Char) {xs ys : List (List Char)} (h : xs.Sublist ys) :
    (List.intercalate sep xs).Sublist (List.intercalate sep ys) := by
  induction h with
  | slnil => exact List.Sublist.refl _
  | @cons xs ys y h ih =>
    by_cases hys : ys = []
    · subst hys
      rw [List.sublist_nil.mp h]
      exact List.nil_sublist _
    · rw [List.intercalate_cons_of_ne_nil hys]
      exact ih.trans (List.sublist_append_right _ _)
  | @cons_cons xs ys y h ih =>
    by_cases hys : ys = []
    · subst hys
      rw [List.sublist_nil.mp h]
    · rw [List.intercalate_cons_of_ne_nil hys]
      by_cases hxs : xs = []
      · rw [hxs, List.intercalate_singleton, List.append_assoc]
        exact List.sublist_append_left _ _
      · rw [List.intercalate_cons_of_ne_nil hxs]
        exact List.Sublist.append_left ih _

theorem plainPieces_sublist (p : String) :
    ((plainPieces p).map String.toList).Sublist (Text.splitAt '/' p.toList) := by
  rw [plainPieces, pieces, List.filter_map, List.map_map]
  have hid : String.toList ∘ String.ofList = id := funext fun _ => String.toList_ofList
  rw [hid, List.map_id]
  exact List.filter_sublist.trans List.filter_sublist

theorem prefix_behind (base : String) : base.toList <+: (behind base).toList := by
  unfold behind
  split
  · exact List.prefix_rfl
  · rw [String.toList_append]
    exact List.prefix_append _ _

/-- The parts of a path take no more than the path itself. -/
theorem joinParts_sublist (start rest : String) :
    (joinParts start (plainParts rest)).toList.Sublist (behind start ++ rest).toList := by
  rw [plainParts_eq, String.toList_append]
  by_cases hnil : plainPieces rest = []
  · rw [hnil]
    exact (prefix_behind start).sublist.trans (List.sublist_append_left _ _)
  · rw [toList_joinParts (of_mem_plainPieces rest) hnil]
    refine List.Sublist.append_left ?_ _
    have hall := intercalate_sublist ['/'] (plainPieces_sublist rest)
    rwa [Text.intercalate_splitAt] at hall

/-- Nor does the slash behind them, where the path ends in one. -/
theorem behind_joinParts_sublist (start : String) {rest : String}
    (hrest : rest = "" ∨ endsInSlash rest = true) :
    (behind (joinParts start (plainParts rest))).toList.Sublist (behind start ++ rest).toList := by
  rcases hrest with rfl | hslash
  · rw [String.append_empty]
    exact List.Sublist.refl _
  · obtain ⟨a, rfl⟩ := exists_slash hslash
    have hpieces : pieces (a ++ "/") = pieces a := by
      have hnone : pieces "" = [] := rfl
      rw [← String.append_empty (s := a ++ "/"), pieces_slash, hnone, List.append_nil]
    have hbehind : ∀ x : String, (behind x).toList.Sublist (x.toList ++ ['/']) := by
      intro x
      unfold behind
      split
      · exact List.sublist_append_left _ _
      · rw [String.toList_append]
        exact List.Sublist.refl _
    rw [plainParts_eq, plainPieces, hpieces, ← plainPieces, ← plainParts_eq]
    refine (hbehind _).trans ?_
    rw [← String.append_assoc, String.toList_append]
    exact (joinParts_sublist start a).append_right _

/-! ## Made absolute -/

section

variable {cwd p q : String} (h : absolute? cwd p = some q)

include h

/-- The path made absolute is its parts behind its start, with its last slash. -/
theorem absolute?_cases :
    (endsInSlash p = true ∧ q = behind (joinParts (anchor cwd p) (plainParts p))) ∨
      (endsInSlash p = false ∧ q = joinParts (anchor cwd p) (plainParts p)) := by
  have hp : p ≠ "" := by
    rintro rfl
    cases h
  rw [absolute?_eq hp, Option.some.injEq, join_eq rfl, String.append_empty] at h
  cases hslash : endsInSlash p with
  | true =>
    rw [hslash, if_pos rfl] at h
    exact .inl ⟨rfl, h.symm⟩
  | false =>
    rw [hslash, if_neg Bool.false_ne_true] at h
    exact .inr ⟨rfl, h.symm⟩

theorem pieces_absolute? : pieces q = pieces (anchor cwd p) ++ plainPieces p := by
  have hparts := pieces_joinParts (of_mem_plainPieces p) (anchor cwd p)
  rw [← plainParts_eq] at hparts
  rcases absolute?_cases h with ⟨-, rfl⟩ | ⟨-, rfl⟩
  · have hslash := pieces_behind_append (joinParts (anchor cwd p) (plainParts p)) ""
    have hnone : pieces "" = [] := rfl
    rw [String.append_empty, hnone, List.append_nil] at hslash
    rw [hslash, hparts]
  · exact hparts

theorem isAbsolute_absolute? : isAbsolute q = isAbsolute (anchor cwd p) := by
  have hparts := isAbsolute_joinParts (of_mem_plainPieces p) (anchor cwd p)
  rw [← plainParts_eq] at hparts
  rcases absolute?_cases h with ⟨-, rfl⟩ | ⟨-, rfl⟩
  · have hslash := isAbsolute_join (p := "") rfl (joinParts (anchor cwd p) (plainParts p))
    rw [join_eq rfl, String.append_empty] at hslash
    rw [hslash, hparts]
  · exact hparts

/-- **Nothing is written that was not written before.** -/
theorem absolute?_sublist : q.toList.Sublist (join cwd p).toList := by
  obtain ⟨rest, hjoin, hpieces, hend⟩ := exists_rest cwd p
  have hparts : plainParts p = plainParts rest := by
    rw [plainParts, plainParts, hpieces]
  rw [hjoin]
  rcases absolute?_cases h with ⟨hslash, rfl⟩ | ⟨-, rfl⟩
  · rw [hparts]
    exact behind_joinParts_sublist _ (hend hslash)
  · rw [hparts]
    exact joinParts_sublist _ _

theorem plainPieces_absolute? : plainPieces q = plainPieces (join cwd p) := by
  rw [plainPieces, plainPieces, pieces_absolute? h, pieces_join_anchor, plainPieces,
    List.filter_append, List.filter_append, List.filter_filter]
  simp only [Bool.and_self]

/-- **A path made absolute** names what the path names. -/
theorem absoluteName_absolute? (hcwd : isAbsolute cwd = true) : AbsoluteName (join cwd p) q := by
  have habsolute : isAbsolute q = true := by
    rw [isAbsolute_absolute? h]
    exact isAbsolute_anchor hcwd p
  have hjoin := isAbsolute_join_of_absolute hcwd p
  refine ⟨habsolute, ?_, fun t seen other l hl => ?_⟩
  · rw [parts_eq, parts_eq, if_pos habsolute, if_pos hjoin, plainParts_eq, plainParts_eq,
      plainPieces_absolute? h]
  · have hsublist := absolute?_sublist h
    rw [FileTree.locate_eq_ok_iff] at hl ⊢
    obtain ⟨⟨hnul, hlength, -⟩, hfollow⟩ := hl
    rw [join_absolute _ _ hjoin, pieces_join_anchor, FileTree.follow_append_eq_ok_iff] at hfollow
    rw [join_absolute _ _ habsolute, pieces_absolute? h, FileTree.follow_append_eq_ok_iff]
    obtain ⟨m, hm, hrest⟩ := hfollow
    refine ⟨⟨?_, ?_, ?_⟩, m, hm, FileTree.follow_filter_here hrest⟩
    · rw [List.any_eq_false] at hnul ⊢
      exact fun c hc => hnul c (hsublist.subset hc)
    · refine Nat.lt_of_le_of_lt ?_ hlength
      rw [← String.utf8Len_toList, ← String.utf8Len_toList]
      exact String.utf8Len_le_of_sublist hsublist
    · rintro rfl
      cases habsolute

end

end ValidatorKeys.Path
