import ValidatorKeys.Proofs.Dialogue.Conduct
import ValidatorKeys.Proofs.File.Following
import ValidatorKeys.Proofs.KeyFile.Records

/-!
# The place of the key file

A key file can be written and read back where its path names a location with a regular file or with
nothing.  Writing it there keeps this so, and the file then holds the records that were added since
it was emptied, whatever it held before.

    create                    → the file is empty, with the permission bits it had or `KeyFile.mode`
    append after fileBytes rs → fileBytes (rs ++ [r])
    readLines of fileBytes rs = rs.map Record.line
-/

namespace ValidatorKeys

open Text (IsLine)

/-! ## Places -/

/-- The path names a location where a regular file stands or can be made. -/
structure FileTree.HasPlace (t : FileTree) (cwd path : String) (l : Location) : Prop where
  locate : t.locate cwd path = .ok l
  no_slash : Path.endsInSlash path = false
  regular : ∀ n, t.get? l = some n → ∃ content mode, n = .file content mode

/-- The permission bits of a key file, by what stood in its place before. -/
def KeyFile.modeAfter : Option Node → Nat
  | some (.file _ mode) => mode
  | _ => KeyFile.mode

/-- The key file is at its place and holds the records kept last; if none were, what stood there
before is still there. -/
def KeyFile.Holds (cwd path : String) (l : Location) (before : Option Node) :
    Option (List Record) → FileTree → Prop
  | none, t => t.locate cwd path = .ok l ∧ t.get? l = before
  | some rs, t => t.locate cwd path = .ok l ∧
      t.get? l = some (.file (fileBytes rs) (KeyFile.modeAfter before))

/-- No command touches what a path names. -/
def Runner.Spares {σ : Type} (r : Runner σ) (cwd path : String) : Prop :=
  ∀ c i t st l, t.locate cwd path = .ok l →
    (r.run c i t st).files.locate cwd path = .ok l ∧ (r.run c i t st).files.get? l = t.get? l

/-- Prepared answers leave the files alone. -/
theorem scripted_files (c : Command) (i : Option String) (t : FileTree) (answers : List Answer) :
    (scripted.run c i t answers).files = t := by
  cases answers <;> rfl

theorem scripted_spares (cwd path : String) : scripted.Spares cwd path := by
  intro c i t answers l h
  rw [scripted_files]
  exact ⟨h, rfl⟩

theorem Runner.Spares.steady {σ : Type} {r : Runner σ} {cwd path : String}
    (h : r.Spares cwd path) (l : Location) (before : Option Node) :
    r.Steady (KeyFile.Holds cwd path l before) := by
  intro kept c i t st ht
  cases kept with
  | none =>
    obtain ⟨hl, hg⟩ := h c i t st l ht.1
    exact ⟨hl, hg.trans ht.2⟩
  | some rs =>
    obtain ⟨hl, hg⟩ := h c i t st l ht.1
    exact ⟨hl, hg.trans ht.2⟩

/-! ## Writing at a place -/

namespace FileTree

/-- What is put where no directory stands takes no directory away. -/
theorem locate_set {t : FileTree} {cwd path : String} {l : Location}
    (hl : ∀ m, t.get? l = some m → m.isDirectory = false) (n : Node) {k : Location}
    (h : t.locate cwd path = .ok k) : (t.set l n).locate cwd path = .ok k :=
  locate_of_directories
    (fun _ => hasDirectory_of_elsewhere (fun k hk => get?_set_of_ne t l k n hk) hl) h

/-- What opening a file for writing does: where the path leads, a regular file is emptied or made,
and anything else stays as it is. -/
theorem openEmpty_cases {t t' : FileTree} {cwd path : String} {mode : Nat} {l : Location}
    (h : t.openEmpty cwd path mode = .ok (l, t')) :
    t.locate cwd path = .ok l ∧ Path.endsInSlash path = false ∧
      (t' = t ∨ ∃ m, t' = t.set l (.file ByteArray.empty m) ∧
        ∀ n, t.get? l = some n → ∃ old, n = .file old m) := by
  unfold openEmpty at h
  split at h
  · cases h
  · next k hlocate =>
    split at h
    · cases h
    · next hslash =>
      have hends := eq_false_of_ne_true hslash
      split at h
      · cases h
      · next old m hget =>
        cases h
        refine ⟨hlocate, hends, .inr ⟨m, rfl, fun n hn => ⟨old, ?_⟩⟩⟩
        rw [hget, Option.some.injEq] at hn
        exact hn.symm
      · cases h
        exact ⟨hlocate, hends, .inl rfl⟩
      · next hget =>
        cases h
        refine ⟨hlocate, hends, .inr ⟨mode, rfl, fun n hn => ?_⟩⟩
        rw [hget] at hn
        cases hn

/-- What writing to an open file does: a regular file has another content under the same bits, and
anything else stays as it is. -/
theorem writeAt_cases {t t' : FileTree} {l : Location} {position : Nat} {bytes : ByteArray}
    (h : t.writeAt l position bytes = .ok t') :
    t' = t ∨ ∃ old content m, t.get? l = some (.file old m) ∧ t' = t.set l (.file content m) := by
  unfold writeAt at h
  split at h
  · next old m hget =>
    cases h
    exact .inr ⟨old, _, m, hget, rfl⟩
  · split at h
    · cases h
      exact .inl rfl
    · cases h
  · cases h
    exact .inl rfl

namespace HasPlace

variable {t : FileTree} {cwd path : String} {l : Location}

theorem not_directory (h : t.HasPlace cwd path l) :
    ∀ m, t.get? l = some m → m.isDirectory = false := by
  intro m hm
  obtain ⟨content, mode, rfl⟩ := h.regular m hm
  rfl

theorem openEmpty_eq (h : t.HasPlace cwd path l) :
    t.openEmpty cwd path KeyFile.mode =
      .ok (l, t.set l (.file ByteArray.empty (KeyFile.modeAfter (t.get? l)))) := by
  unfold openEmpty
  simp only [h.locate, h.no_slash, Bool.false_eq_true, if_false]
  cases hn : t.get? l with
  | none => rfl
  | some n =>
    obtain ⟨content, mode, rfl⟩ := h.regular n hn
    rfl

end HasPlace

theorem overwrite_end (content bytes : ByteArray) :
    overwrite content content.size bytes = content ++ bytes := by
  have hgap :
      (⟨Array.replicate (content.size - content.size) 0⟩ : ByteArray) = ByteArray.empty := by
    rw [Nat.sub_self]
    rfl
  have htail : content.extract (content.size + bytes.size) content.size = ByteArray.empty := by
    rw [ByteArray.extract_eq_empty_iff]
    omega
  rw [overwrite, hgap, htail, ByteArray.extract_zero_size, ByteArray.append_empty,
    ByteArray.append_empty]

end FileTree

namespace KeyFile

/-- In an empty tree a key file has a place. -/
theorem hasPlace_empty : FileTree.HasPlace {} "/" "keys.txt" ["keys.txt"] where
  locate := by rfl
  no_slash := by decide +kernel
  regular _ hn := nomatch hn

/-- The only file of a tree has its place there. -/
theorem hasPlace_keyFile {content : ByteArray} (m : Nat) :
    FileTree.HasPlace ⟨[(["keys.txt"], .file content m)]⟩ "/" "keys.txt" ["keys.txt"] where
  locate := by rfl
  no_slash := by decide +kernel
  regular _ hn := ⟨_, _, (Option.some.inj hn).symm⟩

variable {cwd path : String} {l : Location} {before : Option Node} {t : FileTree}

theorem create_eq_ok_iff {w : KeyWriter} {t' : FileTree} : create t cwd path = .ok (w, t') ↔
    w = ⟨path, w.location, 0, 0⟩ ∧ t.openEmpty cwd path mode = .ok (w.location, t') := by
  unfold create
  split
  · next l t₁ hopen =>
    constructor
    · intro h
      cases h
      exact ⟨rfl, hopen⟩
    · rintro ⟨hw, h⟩
      cases h.symm.trans hopen
      rw [hw]
  · next e hopen => simp [hopen]

/-- Whatever the key file holds, its place stays one. -/
theorem Holds.hasPlace {kept : Option (List Record)} (h : Holds cwd path l before kept t)
    (hslash : Path.endsInSlash path = false)
    (hbefore : ∀ n, before = some n → ∃ content mode, n = .file content mode) :
    t.HasPlace cwd path l ∧ modeAfter (t.get? l) = modeAfter before := by
  cases kept with
  | none =>
    obtain ⟨hl, hg⟩ := h
    exact ⟨⟨hl, hslash, fun n hn => hbefore n (hg ▸ hn)⟩, by rw [hg]⟩
  | some rs =>
    obtain ⟨hl, hg⟩ := h
    refine ⟨⟨hl, hslash, fun n hn => ?_⟩, by rw [hg]; rfl⟩
    rw [hg, Option.some.injEq] at hn
    exact ⟨_, _, hn.symm⟩

/-- Opening the key file empties it. -/
theorem create_eq (h : t.HasPlace cwd path l) (hmode : modeAfter (t.get? l) = modeAfter before) :
    ∃ t', create t cwd path = .ok (⟨path, l, 0, 0⟩, t') ∧ Holds cwd path l before (some []) t' := by
  refine ⟨t.set l (.file ByteArray.empty (modeAfter (t.get? l))), ?_, ?_, ?_⟩
  · exact create_eq_ok_iff.mpr ⟨rfl, h.openEmpty_eq⟩
  · exact FileTree.locate_set h.not_directory _ h.locate
  · rw [FileTree.get?_set_self, hmode]
    rfl

/-- A record is added behind those that the file holds. -/
theorem append_eq {rs : List Record} (h : Holds cwd path l before (some rs) t) (w : KeyWriter)
    (hl : w.location = l) (hw : w.position = (fileBytes rs).size) (r : Record) :
    ∃ w' t', append t w r = .ok (w', t') ∧ w'.location = l ∧
      w'.position = (fileBytes (rs ++ [r])).size ∧
      Holds cwd path l before (some (rs ++ [r])) t' := by
  obtain ⟨hloc, hget⟩ := h
  have hwrite : t.writeAt w.location w.position r.bytes =
      .ok (t.set l (.file (fileBytes (rs ++ [r])) (modeAfter before))) := by
    unfold FileTree.writeAt
    rw [hl, hget, hw]
    simp only
    rw [FileTree.overwrite_end, ← fileBytes_append_singleton]
  refine ⟨{ w with position := w.position + r.bytes.size, written := w.written + 1 }, _, ?_, hl,
    ?_, FileTree.locate_set (fun m hm => ?_) _ hloc, FileTree.get?_set_self ..⟩
  · rw [append, hwrite]
  · rw [fileBytes_append_singleton, ByteArray.size_append, ← hw]
  · rw [hget, Option.some.injEq] at hm
    subst hm
    rfl

/-- What a key file holds is found at its path. -/
theorem Holds.lookup_eq {rs : List Record} (h : Holds cwd path l before (some rs) t)
    (hslash : Path.endsInSlash path = false) :
    t.lookup cwd path = .ok (l, .file (fileBytes rs) (modeAfter before)) := by
  exact FileTree.lookup_eq_ok_iff.mpr ⟨h.1, h.2, by simp [hslash]⟩

/-- The bytes at the path of a key file are those of its records. -/
theorem Holds.read_eq {rs : List Record} (h : Holds cwd path l before (some rs) t)
    (hslash : Path.endsInSlash path = false) : t.read cwd path = .ok (fileBytes rs) := by
  rw [FileTree.read, h.lookup_eq hslash]

/-- **What was written is read back**, one line to a record. -/
theorem readLines_eq {rs : List Record} (h : Holds cwd path l before (some rs) t)
    (hslash : Path.endsInSlash path = false) (hrs : ∀ r ∈ rs, IsLine r.seedLine) :
    readLines t cwd path = .ok (rs.map Record.line) := by
  have hread : t.readText cwd path = .ok (String.ofList (fileText rs)) := by
    rw [FileTree.readText, h.read_eq hslash]
    simp only
    rw [fileBytes, show (String.ofList (fileText rs)).toUTF8 =
      Text.encode (String.ofList (fileText rs)) from rfl, Text.decode?_encode]
  rw [readLines, hread]
  simp only
  rw [String.toList_ofList, lines_fileText hrs]

end KeyFile

end ValidatorKeys
