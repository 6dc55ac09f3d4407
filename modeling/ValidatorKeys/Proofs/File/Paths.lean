import ValidatorKeys.File.Path
import ValidatorKeys.Proofs.Text.Pieces

/-!
# Joined paths

A relative path behind a base has the pieces of the base and then its own.  Made absolute, it is the
absolute base with those pieces behind it.

    pieces (join base p)        = pieces base ++ pieces p
    absolute? cwd (join base p) = joinParts (absolute? cwd base) (plainParts p)
-/

namespace ValidatorKeys.Path

/-! ## Definitions -/

/-- The parts of a path, without its root and without a leading `.`. -/
def plainParts (p : String) : List Part := ((pieces p).filter (· ≠ ".")).map partOfPiece

/-- Where a path starts, seen from the directory `cwd`. -/
def anchor (cwd p : String) : String :=
  if hasDoubleRoot p then "//" else if isAbsolute p then "/" else cwd

/-- A base with the slash behind which a relative path is joined. -/
def behind (base : String) : String := if base = "" ∨ endsInSlash base then base else base ++ "/"

/-! ## Pieces -/

theorem toList_ne_nil {p : String} (h : p ≠ "") : p.toList ≠ [] :=
  fun hnil => h (String.toList_inj.mp hnil)

theorem ne_empty_of_plainParts {p : String} (h : plainParts p ≠ []) : p ≠ "" := by
  rintro rfl
  exact h rfl

theorem of_mem_pieces {p s : String} (h : s ∈ pieces p) : s ≠ "" ∧ '/' ∉ s.toList := by
  obtain ⟨l, hl, rfl⟩ := List.mem_map.mp h
  obtain ⟨hmem, hne⟩ := List.mem_filter.mp hl
  rw [String.toList_ofList]
  refine ⟨fun hempty => ?_, Text.sep_not_mem_of_mem_splitAt hmem⟩
  have hnil : l = [] := by
    rw [← String.toList_ofList (l := l), hempty]
    rfl
  simp [hnil] at hne

theorem pieces_slash (a b : String) : pieces (a ++ "/" ++ b) = pieces a ++ pieces b := by
  have hlist : (a ++ "/" ++ b).toList = a.toList ++ '/' :: b.toList := by
    simp [String.toList_append]
  rw [pieces, hlist, Text.splitAt_append, List.filter_append, List.map_append]
  rfl

theorem exists_slash {p : String} (h : endsInSlash p = true) : ∃ a, p = a ++ "/" := by
  rw [endsInSlash, beq_iff_eq, List.getLast?_eq_some_iff] at h
  obtain ⟨l, hl⟩ := h
  refine ⟨String.ofList l, String.toList_inj.mp ?_⟩
  rw [hl, String.toList_append, String.toList_ofList]
  rfl

theorem pieces_behind_append (base p : String) :
    pieces (behind base ++ p) = pieces base ++ pieces p := by
  unfold behind
  by_cases hbase : base = ""
  · subst hbase
    rw [if_pos (Or.inl rfl), String.empty_append]
    rfl
  · cases hslash : endsInSlash base with
    | true =>
      obtain ⟨a, rfl⟩ := exists_slash hslash
      have hempty : pieces (a ++ "/") = pieces a ++ pieces "" := by
        rw [← pieces_slash, String.append_empty]
      have hnone : pieces "" = [] := rfl
      rw [if_pos (by simp), pieces_slash, hempty, hnone, List.append_nil]
    | false => rw [if_neg (by simp [hbase]), pieces_slash]

/-! ## Joining -/

theorem join_eq {p : String} (hp : isAbsolute p = false) (base : String) :
    join base p = behind base ++ p := by
  rw [join, behind, if_neg (by simp [hp])]
  split <;> rfl

theorem endsInSlash_append {p : String} (hp : p ≠ "") (a : String) :
    endsInSlash (a ++ p) = endsInSlash p := by
  rw [endsInSlash, String.toList_append, List.getLast?_append_of_ne_nil _ (toList_ne_nil hp)]
  rfl

theorem behind_behind (base : String) : behind (behind base) = behind base := by
  have hbehind : behind base = "" ∨ endsInSlash (behind base) = true := by
    rw [behind]
    split
    · assumption
    · exact Or.inr (endsInSlash_append (by decide) base)
  rw [behind, if_pos hbehind]

/-- A slash at the end of a base makes no difference to what is joined to it. -/
theorem join_join_empty {p : String} (hp : isAbsolute p = false) (base : String) :
    join (join base "") p = join base p := by
  rw [join_eq hp, join_eq rfl, String.append_empty, behind_behind, join_eq hp]

theorem pieces_join {p : String} (hp : isAbsolute p = false) (base : String) :
    pieces (join base p) = pieces base ++ pieces p := by
  rw [join_eq hp, pieces_behind_append]

theorem behind_ne_empty {base : String} (hbase : base ≠ "") : behind base ≠ "" := by
  unfold behind
  split
  · exact hbase
  · exact fun h => hbase (String.append_eq_empty_iff.mp h).1

theorem isAbsolute_append {a : String} (ha : a ≠ "") (b : String) :
    isAbsolute (a ++ b) = isAbsolute a := by
  obtain ⟨c, r, hcons⟩ := List.exists_cons_of_ne_nil (toList_ne_nil ha)
  rw [isAbsolute, isAbsolute, String.toList_append, hcons]
  rfl

theorem hasDoubleRoot_iff (p : String) :
    hasDoubleRoot p = true ↔ ∃ r, p.toList = '/' :: '/' :: r ∧ r.head? ≠ some '/' := by
  unfold hasDoubleRoot
  split
  · next r heq => simp [heq]
  · next r hne heq =>
    refine iff_of_true rfl ⟨r, heq, fun hhead => ?_⟩
    obtain ⟨t, rfl⟩ := List.head?_eq_some_iff.mp hhead
    exact hne t rfl
  · next hne =>
    refine iff_of_false Bool.false_ne_true ?_
    rintro ⟨r, heq, -⟩
    exact hne r heq

/-- Where no slash is added behind a slash, the slashes at the start stay as they are. -/
theorem hasDoubleRoot_append {a b : String} (ha : a ≠ "")
    (h : isAbsolute b = false ∨ endsInSlash a = false) :
    hasDoubleRoot (a ++ b) = hasDoubleRoot a := by
  have hlist := toList_ne_nil ha
  rw [isAbsolute, endsInSlash, beq_eq_false_iff_ne, beq_eq_false_iff_ne] at h
  rw [Bool.eq_iff_iff, hasDoubleRoot_iff, hasDoubleRoot_iff, String.toList_append]
  generalize a.toList = l at hlist h ⊢
  generalize b.toList = m at h ⊢
  constructor
  · rintro ⟨r, heq, hr⟩
    match l with
    | [] => exact absurd rfl hlist
    | [c] =>
      obtain ⟨rfl, rfl⟩ := List.cons_eq_cons.mp heq
      simp at h
    | c :: d :: l =>
      obtain ⟨rfl, htail⟩ := List.cons_eq_cons.mp heq
      obtain ⟨rfl, rfl⟩ := List.cons_eq_cons.mp htail
      refine ⟨l, rfl, fun hhead => hr ?_⟩
      obtain ⟨t, rfl⟩ := List.head?_eq_some_iff.mp hhead
      rfl
  · rintro ⟨r, rfl, hr⟩
    refine ⟨r ++ m, rfl, ?_⟩
    cases r with
    | nil => simpa using h
    | cons c r => exact hr

theorem isAbsolute_join {p : String} (hp : isAbsolute p = false) (base : String) :
    isAbsolute (join base p) = isAbsolute base := by
  rw [join_eq hp]
  by_cases hbase : base = ""
  · subst hbase
    rw [behind, if_pos (Or.inl rfl), String.empty_append, hp]
    rfl
  · rw [isAbsolute_append (behind_ne_empty hbase), behind]
    split
    · rfl
    · exact isAbsolute_append hbase _

/-- A relative path behind a base starts where the base does. -/
theorem anchor_join {base p : String} (hbase : base ≠ "") (hp : isAbsolute p = false)
    (cwd : String) : anchor cwd (join base p) = anchor cwd base := by
  have hdouble : hasDoubleRoot (join base p) = hasDoubleRoot base := by
    rw [join_eq hp, hasDoubleRoot_append (behind_ne_empty hbase) (Or.inl hp), behind]
    split
    · rfl
    · next hslash =>
      exact hasDoubleRoot_append hbase (Or.inr (eq_false_of_ne_true (not_or.mp hslash).2))
  rw [anchor, anchor, hdouble, isAbsolute_join hp]

theorem plainParts_join {p : String} (hp : isAbsolute p = false) (base : String) :
    plainParts (join base p) = plainParts base ++ plainParts p := by
  rw [plainParts, pieces_join hp, List.filter_append, List.map_append]
  rfl

/-! ## Parts -/

theorem parts_eq (p : String) : parts p =
    if isAbsolute p then .root :: plainParts p
    else if (pieces p).head? = some "." then .here :: plainParts p else plainParts p := rfl

theorem of_mem_plainParts {p : String} {q : Part} (h : q ∈ plainParts p) :
    q ≠ .root ∧ q ≠ .here := by
  obtain ⟨s, -, rfl⟩ := List.mem_map.mp h
  unfold partOfPiece
  split <;> simp

theorem filter_here_parts (p : String) : (parts p).filter (· ≠ .here) =
    if isAbsolute p then .root :: plainParts p else plainParts p := by
  have hplain : (plainParts p).filter (· ≠ .here) = plainParts p :=
    List.filter_eq_self.mpr fun q hq => by simp [(of_mem_plainParts hq).2]
  rw [parts_eq]
  split
  · rw [List.filter_cons_of_pos (by simp), hplain]
  · split
    · rw [List.filter_cons_of_neg (by simp), hplain]
    · exact hplain

theorem dropWhile_here_parts {p : String} (hp : isAbsolute p = false) :
    (parts p).dropWhile (· == .here) = plainParts p := by
  have hplain : (plainParts p).dropWhile (· == .here) = plainParts p := by
    cases hparts : plainParts p with
    | nil => rfl
    | cons q qs =>
      have hq := (of_mem_plainParts (hparts ▸ List.mem_cons_self)).2
      rw [List.dropWhile_cons_of_neg (by simpa using hq)]
  rw [parts_eq, if_neg (by simp [hp])]
  split
  · rw [List.dropWhile_cons_of_pos (by simp), hplain]
  · exact hplain

theorem plainParts_ne_nil {p : String} (hp : isAbsolute p = false) (h : 1 < (parts p).length) :
    plainParts p ≠ [] := by
  intro hnil
  rw [parts_eq, hnil, if_neg (by simp [hp])] at h
  split at h <;> simp at h

theorem joinPart_partOfPiece (base s : String) : joinPart base (partOfPiece s) = join base s := by
  unfold partOfPiece
  split
  · next heq => rw [heq, joinPart]
  · rfl

/-- What is put behind a base for a part of a path. -/
theorem joinPart_of_mem_plainParts {p : String} {q : Part} (h : q ∈ plainParts p) :
    ∃ s, s ≠ "" ∧ '/' ∉ s.toList ∧ ∀ base, joinPart base q = join base s := by
  obtain ⟨s, hs, rfl⟩ := List.mem_map.mp h
  obtain ⟨hne, hslash⟩ := of_mem_pieces (List.mem_filter.mp hs).1
  exact ⟨s, hne, hslash, fun base => joinPart_partOfPiece base s⟩

theorem isAbsolute_of_not_mem {s : String} (h : '/' ∉ s.toList) : isAbsolute s = false := by
  rw [isAbsolute, beq_eq_false_iff_ne]
  exact fun hhead => h (List.mem_of_mem_head? hhead)

theorem endsInSlash_of_not_mem {s : String} (h : '/' ∉ s.toList) : endsInSlash s = false := by
  rw [endsInSlash, beq_eq_false_iff_ne]
  exact fun hlast => h (List.mem_of_getLast? hlast)

/-- A path that is made of parts ends like the last of them. -/
theorem exists_joinParts_eq {p : String} (h : plainParts p ≠ []) (base : String) :
    ∃ a s, s ≠ "" ∧ '/' ∉ s.toList ∧ joinParts base (plainParts p) = a ++ s := by
  obtain ⟨s, hne, hslash, hjoin⟩ := joinPart_of_mem_plainParts (List.getLast_mem h)
  have hlast : joinParts base (plainParts p) =
      joinPart (joinParts base (plainParts p).dropLast) ((plainParts p).getLast h) := by
    conv_lhs => rw [← List.dropLast_concat_getLast h]
    exact List.foldl_append
  refine ⟨behind (joinParts base (plainParts p).dropLast), s, hne, hslash, ?_⟩
  rw [hlast, hjoin, join_eq (isAbsolute_of_not_mem hslash)]

theorem endsInSlash_joinParts {p : String} (h : plainParts p ≠ []) (base : String) :
    endsInSlash (joinParts base (plainParts p)) = false := by
  obtain ⟨a, s, hne, hslash, heq⟩ := exists_joinParts_eq h base
  rw [heq, endsInSlash_append hne]
  exact endsInSlash_of_not_mem hslash

theorem endsInSlash_join_empty {base : String} (h : base ≠ "") :
    endsInSlash (join base "") = true := by
  rw [join_eq rfl, String.append_empty, behind]
  split
  · next hbehind => exact hbehind.resolve_left h
  · exact endsInSlash_append (by decide) base

theorem joinParts_join_empty {p : String} (h : plainParts p ≠ []) (base : String) :
    joinParts (join base "") (plainParts p) = joinParts base (plainParts p) := by
  obtain ⟨q, qs, hcons⟩ := List.exists_cons_of_ne_nil h
  obtain ⟨s, -, hslash, hjoin⟩ := joinPart_of_mem_plainParts (hcons ▸ List.mem_cons_self)
  rw [hcons, joinParts, joinParts, List.foldl_cons, List.foldl_cons, hjoin, hjoin,
    join_join_empty (isAbsolute_of_not_mem hslash)]

/-! ## Absolute paths -/

theorem isAbsolute_of_hasDoubleRoot {p : String} (h : hasDoubleRoot p = true) :
    isAbsolute p = true := by
  obtain ⟨r, heq, -⟩ := (hasDoubleRoot_iff p).mp h
  rw [isAbsolute, heq]
  rfl

theorem anchor_of_relative {p : String} (hp : isAbsolute p = false) (cwd : String) :
    anchor cwd p = cwd := by
  cases hdouble : hasDoubleRoot p with
  | true =>
    rw [isAbsolute_of_hasDoubleRoot hdouble] at hp
    cases hp
  | false => rw [anchor, hdouble, hp, if_neg Bool.false_ne_true, if_neg Bool.false_ne_true]

theorem absolute?_eq {p : String} (hp : p ≠ "") (cwd : String) :
    absolute? cwd p = some (if endsInSlash p
      then join (joinParts (anchor cwd p) (plainParts p)) ""
      else joinParts (anchor cwd p) (plainParts p)) := by
  have hroot : (Part.root :: plainParts p).filter (· ≠ .root) = plainParts p := by
    rw [List.filter_cons_of_neg (by simp), List.filter_eq_self]
    exact fun q hq => by simp [(of_mem_plainParts hq).1]
  rw [absolute?, if_neg hp]
  simp only [filter_here_parts]
  cases habsolute : isAbsolute p with
  | true =>
    rw [anchor, habsolute]
    cases hasDoubleRoot p with
    | true => simp only [if_true, hroot]
    | false => simp [joinParts, joinPart]
  | false =>
    have hsingle : hasDoubleRoot p = false :=
      eq_false_of_ne_true fun h => by simp [isAbsolute_of_hasDoubleRoot h] at habsolute
    rw [anchor_of_relative habsolute]
    simp [hsingle]

/-- A slash at the end of a path is kept. -/
theorem endsInSlash_absolute? {cwd p q : String} (hslash : endsInSlash p = true)
    (hparts : plainParts p ≠ []) (h : absolute? cwd p = some q) : endsInSlash q = true := by
  have hne := ne_empty_of_plainParts hparts
  obtain ⟨a, s, hs, -, heq⟩ := exists_joinParts_eq hparts (anchor cwd p)
  rw [absolute?_eq hne, if_pos hslash, Option.some.injEq] at h
  subst h
  refine endsInSlash_join_empty fun hempty => hs ?_
  rw [heq] at hempty
  exact (String.append_eq_empty_iff.mp hempty).2

/-- **A joined path made absolute** is the absolute base with the parts of the path behind it. -/
theorem absolute?_join {base p : String} (hbase : base ≠ "") (hp : isAbsolute p = false)
    (hslash : endsInSlash p = false) (hparts : plainParts p ≠ []) (cwd : String) :
    absolute? cwd (join base p) =
      (absolute? cwd base).map fun w => joinParts w (plainParts p) := by
  have hne := ne_empty_of_plainParts hparts
  have hjoin : join base p ≠ "" := by
    rw [join_eq hp]
    exact fun h => hne (String.append_eq_empty_iff.mp h).2
  have hend : endsInSlash (join base p) = false := by
    rw [join_eq hp, endsInSlash_append hne, hslash]
  rw [absolute?_eq hjoin, absolute?_eq hbase, hend, anchor_join hbase hp, plainParts_join hp,
    Option.map_some]
  congr 1
  have hall : joinParts (anchor cwd base) (plainParts base ++ plainParts p) =
      joinParts (joinParts (anchor cwd base) (plainParts base)) (plainParts p) :=
    List.foldl_append
  rw [if_neg Bool.false_ne_true, hall]
  split
  · rw [joinParts_join_empty hparts]
  · rfl

end ValidatorKeys.Path
