import ValidatorKeys.File.Tree

/-!
# Following paths

A path is followed from directory to directory, so all that counts in a tree is where its
directories are.  A piece `.` leads nowhere else: a path that can be followed can be followed without
it.  What is looked up is what stands where the path leads.

    follow k (p :: ps) = ok l        ↔ a directory at k, p not too long, follow (step k p) ps = ok l
    follow k (ps.filter (· ≠ "."))   = ok l    when follow k ps = ok l
    lookup path = ok (l, n)          ↔ path leads to l, n is there, a directory if a slash ends path
-/

namespace ValidatorKeys.FileTree

/-! ## Definitions -/

def HasDirectory (t : FileTree) (k : Location) : Prop :=
  ∃ n, t.get? k = some n ∧ n.isDirectory = true

/-! ## Following -/

variable {t t' : FileTree} {k l : Location}

/-- A tree that differs at one location, where there was no directory, has the directories still. -/
theorem hasDirectory_of_elsewhere (h : ∀ k, k ≠ l → t'.get? k = t.get? k)
    (hl : ∀ n, t.get? l = some n → n.isDirectory = false) (hk : t.HasDirectory k) :
    t'.HasDirectory k := by
  obtain ⟨n, hn, hdirectory⟩ := hk
  have hne : k ≠ l := by
    rintro rfl
    rw [hl n hn] at hdirectory
    cases hdirectory
  exact ⟨n, by rw [h k hne, hn], hdirectory⟩

theorem follow_cons_eq_ok_iff {p : String} {ps : List String} : t.follow k (p :: ps) = .ok l ↔
    t.HasDirectory k ∧ p.utf8ByteSize ≤ 255 ∧ t.follow (step k p) ps = .ok l := by
  rw [follow, HasDirectory]
  cases t.get? k with
  | none => simp
  | some n =>
    cases hn : n.isDirectory with
    | false => simp [hn]
    | true =>
      by_cases hlength : 255 < p.utf8ByteSize
      · simp [hn, hlength, Nat.not_le.mpr hlength]
      · simp [hn, hlength, Nat.not_lt.mp hlength]

/-- **Only the directories count** where a path is followed. -/
theorem follow_of_directories (h : ∀ k, t.HasDirectory k → t'.HasDirectory k) {ps : List String}
    (hk : t.follow k ps = .ok l) : t'.follow k ps = .ok l := by
  induction ps generalizing k with
  | nil => exact hk
  | cons p ps ih =>
    rw [follow_cons_eq_ok_iff] at hk ⊢
    exact ⟨h k hk.1, hk.2.1, ih hk.2.2⟩

theorem follow_append_eq_ok_iff {ps qs : List String} : t.follow k (ps ++ qs) = .ok l ↔
    ∃ m, t.follow k ps = .ok m ∧ t.follow m qs = .ok l := by
  induction ps generalizing k with
  | nil => simp [follow]
  | cons p ps ih =>
    rw [List.cons_append, follow_cons_eq_ok_iff, ih]
    simp only [follow_cons_eq_ok_iff]
    constructor
    · rintro ⟨hk, hp, m, hm, hl⟩
      exact ⟨m, ⟨hk, hp, hm⟩, hl⟩
    · rintro ⟨m, ⟨hk, hp, hm⟩, hl⟩
      exact ⟨hk, hp, m, hm, hl⟩

/-- A path that can be followed can be followed without its pieces `.`. -/
theorem follow_filter_here {ps : List String} (h : t.follow k ps = .ok l) :
    t.follow k (ps.filter (· ≠ ".")) = .ok l := by
  induction ps generalizing k with
  | nil => exact h
  | cons p ps ih =>
    obtain ⟨hk, hp, hrest⟩ := follow_cons_eq_ok_iff.mp h
    by_cases hhere : p = "."
    · subst hhere
      rw [List.filter_cons_of_neg (by simp)]
      exact ih hrest
    · rw [List.filter_cons_of_pos (by simpa using hhere)]
      exact follow_cons_eq_ok_iff.mpr ⟨hk, hp, ih hrest⟩

/-! ## Locating -/

variable {cwd path : String}

theorem locate_eq_ok_iff :
    t.locate cwd path = .ok k ↔
    (path.toList.any (· == Char.ofNat 0) = false ∧ path.utf8ByteSize < pathLimit ∧ path ≠ "") ∧
      t.follow [] (Path.pieces (Path.join cwd path)) = .ok k := by
  unfold locate
  split
  · next h => simp [h]
  · next hnul =>
    split
    · next h => simp [Nat.not_lt.mpr h]
    · next hlength =>
      split
      · next h => simp [h]
      · next hempty =>
        have hgood : path.toList.any (· == Char.ofNat 0) = false ∧
            path.utf8ByteSize < pathLimit ∧ path ≠ "" :=
          ⟨eq_false_of_ne_true hnul, Nat.not_le.mp hlength, hempty⟩
        exact (and_iff_right hgood).symm

theorem locate_of_directories (h : ∀ k, t.HasDirectory k → t'.HasDirectory k)
    (hk : t.locate cwd path = .ok k) : t'.locate cwd path = .ok k := by
  rw [locate_eq_ok_iff] at hk ⊢
  exact ⟨hk.1, follow_of_directories h hk.2⟩

/-! ## Looking up -/

variable {n : Node}

theorem lookup_eq_ok_iff : t.lookup cwd path = .ok (l, n) ↔
    t.locate cwd path = .ok l ∧ t.get? l = some n ∧
      (Path.endsInSlash path = true → n.isDirectory = true) := by
  unfold lookup
  cases hlocate : t.locate cwd path with
  | error e => simp
  | ok k =>
    simp only [Except.ok.injEq]
    constructor
    · intro h
      split at h
      · cases h
      · next m hget =>
        split at h
        · cases h
        · next hslash =>
          cases h
          exact ⟨rfl, hget, by simpa using hslash⟩
    · rintro ⟨rfl, hget, hslash⟩
      rw [hget]
      exact if_neg (by simpa using hslash)

theorem lookup_congr (hlocate : t'.locate cwd path = t.locate cwd path)
    (hget : ∀ l, t.locate cwd path = .ok l → t'.get? l = t.get? l) :
    t'.lookup cwd path = t.lookup cwd path := by
  unfold lookup
  rw [hlocate]
  cases hl : t.locate cwd path with
  | error e => rfl
  | ok l => simp only [hget l hl]

theorem exists?_iff : t.exists? cwd path = true ↔ ∃ x, t.lookup cwd path = .ok x := by
  unfold exists?
  cases t.lookup cwd path with
  | error e => simp
  | ok x => simp

theorem readText_congr (h : t'.lookup cwd path = t.lookup cwd path) :
    t'.readText cwd path = t.readText cwd path := by
  unfold readText read
  rw [h]

theorem exists?_of_readText {text : String} (h : t.readText cwd path = .ok text) :
    t.exists? cwd path = true := by
  rw [exists?_iff]
  unfold readText read at h
  cases hlookup : t.lookup cwd path with
  | error e =>
    rw [hlookup] at h
    cases h
  | ok x => exact ⟨x, rfl⟩

/-- What may be run is found at its path, which ends in no slash: it is no directory. -/
theorem runnable?_iff : t.runnable? cwd path = true ↔ ∃ k m, t.locate cwd path = .ok k ∧
    t.get? k = some m ∧ Path.endsInSlash path = false ∧ m.isExecutable = true := by
  have hregular : ∀ m : Node, m.isExecutable = true → m.isDirectory = false := by
    intro m
    cases m <;> simp [Node.isExecutable, Node.isDirectory]
  unfold runnable?
  constructor
  · intro h
    split at h
    · next k m hlookup =>
      obtain ⟨hlocate, hget, hslash⟩ := lookup_eq_ok_iff.mp hlookup
      refine ⟨k, m, hlocate, hget, eq_false_of_ne_true fun hends => ?_, h⟩
      rw [hregular m h] at hslash
      cases hslash hends
    · cases h
  · rintro ⟨k, m, hlocate, hget, hends, hexecutable⟩
    rw [lookup_eq_ok_iff.mpr ⟨hlocate, hget, by simp [hends]⟩]
    exact hexecutable

end ValidatorKeys.FileTree
