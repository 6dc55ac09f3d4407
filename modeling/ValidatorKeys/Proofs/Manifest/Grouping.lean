import ValidatorKeys.Proofs.Manifest.Order

/-!
# Dependencies in groups

Sorting puts names into groups: the name without characters first, the others by the character that
the lowercase mapping of their first character starts with.  Names of one group stay in the order
of the document.  For names that differ there is only one such list, and names that already stand
in the order of their groups are left as they are.

    Groups names sorted          ↔  sorted = sortedNames names        for names without repetition
    sortedNames names = names    ↔  the groups of the names never decrease
-/

namespace ValidatorKeys

namespace Text

def lowercaseMapping (c : Char) : List Char :=
  if c = 'İ' then ['i', '\u0307'] else [Char.ofNat (lowercaseCode c.toNat)]

theorem head?_lowercaseMapping (c : Char) :
    (lowercaseMapping c).head? = some (lowercaseHead c) := by
  unfold lowercaseMapping
  split
  · next h =>
    subst h
    exact congrArg some lowercaseHead_dotted_i.symm
  · rfl

end Text

namespace Manifest

/-! ## Definitions -/

/-- Whether a group may stand before another: none before all others, the others by code point. -/
def GroupLe : Option Char → Option Char → Prop
  | none, _ => True
  | some _, none => False
  | some c, some d => c ≤ d

/-- Whether one name stands before another in a list. -/
def StandsBefore (names : List String) (a b : String) : Prop := [a, b].Sublist names

/-- A list of the same names in the order of their groups, each group in the order of the
document. -/
structure Groups (names sorted : List String) : Prop where
  perm : sorted.Perm names
  ordered : sorted.Pairwise fun a b => GroupLe (group a) (group b)
  stable : ∀ a b, group a = group b → StandsBefore names a b → StandsBefore sorted a b

/-! ## The order of groups -/

theorem group_eq (name : String) :
    group name = name.toList.head?.bind fun c => (Text.lowercaseMapping c).head? := by
  unfold group
  cases name.toList.head? with
  | none => rfl
  | some c => exact (Text.head?_lowercaseMapping c).symm

theorem groupRank_le_iff (g h : Option Char) : groupRank g ≤ groupRank h ↔ GroupLe g h := by
  cases g with
  | none => simp [groupRank, GroupLe]
  | some c =>
    cases h with
    | none => simp [groupRank, GroupLe]
    | some d =>
      rw [groupRank, groupRank, GroupLe, Nat.add_le_add_iff_right, Char.le_def,
        UInt32.le_iff_toNat_le]
      rfl

theorem mayPrecede_iff {a b : String} : mayPrecede a b = true ↔ GroupLe (group a) (group b) := by
  rw [mayPrecede, decide_eq_true_eq, groupRank_le_iff]

theorem groupLe_antisymm {g h : Option Char} (hgh : GroupLe g h) (hhg : GroupLe h g) : g = h := by
  cases g <;> cases h
  · rfl
  · exact absurd hhg id
  · exact absurd hgh id
  · exact congrArg some (Char.le_antisymm hgh hhg)

/-! ## Names before one another -/

section

variable {names : List String} {a b : String}

theorem standsBefore_or (ha : a ∈ names) (hb : b ∈ names) (hne : a ≠ b) :
    StandsBefore names a b ∨ StandsBefore names b a := by
  unfold StandsBefore
  induction names with
  | nil => cases ha
  | cons c names ih =>
    rcases List.mem_cons.mp ha with rfl | ha'
    · have hb' := (List.mem_cons.mp hb).resolve_left hne.symm
      exact Or.inl (List.cons_sublist_cons.mpr (List.singleton_sublist.mpr hb'))
    · rcases List.mem_cons.mp hb with rfl | hb'
      · exact Or.inr (List.cons_sublist_cons.mpr (List.singleton_sublist.mpr ha'))
      · exact (ih ha' hb').imp (·.cons c) (·.cons c)

theorem standsBefore_asymm (hnodup : names.Nodup) (hab : StandsBefore names a b) :
    ¬StandsBefore names b a := by
  unfold StandsBefore at *
  induction names with
  | nil => cases hab
  | cons c names ih =>
    obtain ⟨hc, hnodup⟩ := List.nodup_cons.mp hnodup
    intro hba
    cases hab with
    | cons _ hab =>
      cases hba with
      | cons _ hba => exact ih hnodup hab hba
      | cons_cons _ _ => exact hc (hab.subset (by simp))
    | cons_cons _ hb =>
      cases hba with
      | cons _ hba => exact hc (hba.subset (by simp))
      | cons_cons _ _ => exact hc (hb.subset (by simp))

end

/-! ## Sorted names -/

theorem groups_sortedNames (names : List String) : Groups names (sortedNames names) where
  perm := sortedNames_perm names
  ordered := (pairwise_sortedNames names).imp mayPrecede_iff.mp
  stable a b hgroup hab := by
    have hle : groupRank (group a) ≤ groupRank (group b) := Nat.le_of_eq (congrArg groupRank hgroup)
    exact List.pair_sublist_mergeSort mayPrecede_trans mayPrecede_total (decide_eq_true hle) hab

section

variable {names : List String} (hnodup : names.Nodup)

include hnodup

/-- Such a list is ordered by group and, within a group, by the place in the document. -/
theorem Groups.pairwise {l : List String} (h : Groups names l) : l.Pairwise fun a b =>
    GroupLe (group a) (group b) ∧ (group a = group b → StandsBefore names a b) := by
  have hl : l.Nodup := h.perm.nodup_iff.mpr hnodup
  refine List.pairwise_iff_forall_sublist.mpr fun {a b} hab => ⟨?_, fun hgroup => ?_⟩
  · exact List.pairwise_iff_forall_sublist.mp h.ordered hab
  · have ha : a ∈ names := h.perm.mem_iff.mp (hab.subset (by simp))
    have hb : b ∈ names := h.perm.mem_iff.mp (hab.subset (by simp))
    have hne : a ≠ b := List.pairwise_iff_forall_sublist.mp hl hab
    refine (standsBefore_or ha hb hne).resolve_right fun hba => ?_
    exact standsBefore_asymm hl hab (h.stable b a hgroup.symm hba)

/-- **Only one list groups names that differ.** -/
theorem Groups.unique {l₁ l₂ : List String} (h₁ : Groups names l₁) (h₂ : Groups names l₂) :
    l₁ = l₂ := by
  refine List.Perm.eq_of_pairwise ?_ (h₁.pairwise hnodup) (h₂.pairwise hnodup)
    (h₁.perm.trans h₂.perm.symm)
  rintro a b - - ⟨hle, hab⟩ ⟨hge, hba⟩
  have hgroup := groupLe_antisymm hle hge
  exact absurd (hba hgroup.symm) (standsBefore_asymm hnodup (hab hgroup))

end

theorem sortedNames_eq_self_iff {names : List String} :
    sortedNames names = names ↔ names.Pairwise fun a b => GroupLe (group a) (group b) := by
  constructor
  · intro h
    have hordered := (groups_sortedNames names).ordered
    rwa [h] at hordered
  · exact fun h => List.mergeSort_of_pairwise (h.imp mayPrecede_iff.mpr)

/-! ## Top theorem -/

/-- **Sorting groups names stably**, and no other list does.  The group of a name is the first
character of the lowercase mapping of its first character, if it has one.  Names are left as they
are exactly when they already stand in the order of their groups, and so are sorted names. -/
theorem sortedNames_groups_stably {names : List String} (hnodup : names.Nodup) :
    (∀ name, group name = name.toList.head?.bind fun c => (Text.lowercaseMapping c).head?) ∧
      (∀ sorted, Groups names sorted ↔ sorted = sortedNames names) ∧
      (sortedNames names = names ↔
        names.Pairwise fun a b => GroupLe (group a) (group b)) ∧
      sortedNames (sortedNames names) = sortedNames names := by
  refine ⟨group_eq, fun sorted => ⟨fun h => ?_, ?_⟩, sortedNames_eq_self_iff,
    sortedNames_sortedNames names⟩
  · exact h.unique hnodup (groups_sortedNames names)
  · rintro rfl
    exact groups_sortedNames names

/-- The empty name, a capital with two characters in its mapping, and a sign that shares the group
of a letter. -/
theorem sortedNames_groups_stably_capitals :
    let names := ["\u212Ab", "İx", "", "ka", "ib"]
    names.Nodup ∧ sortedNames names = ["", "İx", "ib", "\u212Ab", "ka"] ∧
      Groups names (sortedNames names) ∧ sortedNames names ≠ names ∧
      sortedNames (sortedNames names) = sortedNames names := by
  intro names
  have hnodup : names.Nodup := by decide
  obtain ⟨-, hgroups, -, hagain⟩ := sortedNames_groups_stably hnodup
  have hsorted : sortedNames names = ["", "İx", "ib", "\u212Ab", "ka"] := by
    have h : names.map group = [some 'k', some 'i', none, some 'k', some 'i'] := by
      decide +kernel
    simp only [names, List.map_cons, List.map_nil, List.cons.injEq, and_true] at h
    obtain ⟨hkelvin, hdotted, hempty, hk, hi⟩ := h
    simp [names, sortedNames, List.mergeSort, List.MergeSort.Internal.splitInTwo, mayPrecede,
      groupRank, hkelvin, hdotted, hempty, hk, hi]
  refine ⟨hnodup, hsorted, (hgroups _).mpr rfl, ?_, hagain⟩
  rw [hsorted]
  decide

end Manifest

end ValidatorKeys
