import ValidatorKeys.Proofs.Provision.Handoff

/-!
# Who may read the key file

A key file that is made anew is open to its owner only.  One that is there already is emptied and
keeps its permission bits, and so does every record added to it.  So the keys in it are open to the
owner only exactly when nothing was there before, or a file that was so itself.

    create, then append of rs      → fileBytes rs, under KeyFile.modeAfter of what was there
    open to the owner only after   ↔ open to the owner only before, or absent
-/

namespace ValidatorKeys

/-! ## Definitions -/

/-- Permission bits that give nothing to the group and to others. -/
def FileMode.OwnerOnly (mode : Nat) : Prop := mode &&& 0o077 = 0

instance (mode : Nat) : Decidable (FileMode.OwnerOnly mode) :=
  inferInstanceAs (Decidable (mode &&& 0o077 = 0))

namespace KeyFile

def appendAll (t : FileTree) (w : KeyWriter) :
    List Record → Except KeyFileError (KeyWriter × FileTree)
  | [] => .ok (w, t)
  | r :: rs =>
    match append t w r with
    | .ok (w, t) => appendAll t w rs
    | .error e => .error e

/-! ## Lemmas -/

theorem ownerOnly_mode : FileMode.OwnerOnly mode := by decide

variable {cwd path : String} {l : Location} {before : Option Node} {t : FileTree}

/-- Records can always be added to a key file, and it then holds them behind those before. -/
theorem appendAll_eq {rs : List Record} (h : Holds cwd path l before (some rs) t) (w : KeyWriter)
    (hl : w.location = l) (hw : w.position = (fileBytes rs).size) (more : List Record) :
    ∃ w' t', appendAll t w more = .ok (w', t') ∧
      Holds cwd path l before (some (rs ++ more)) t' := by
  induction more generalizing rs t w with
  | nil => exact ⟨w, t, rfl, by rwa [List.append_nil]⟩
  | cons r more ih =>
    obtain ⟨w₁, t₁, happend, hl₁, hw₁, hholds⟩ := append_eq h w hl hw r
    obtain ⟨w₂, t₂, hrest, hholds₂⟩ := ih hholds w₁ hl₁ hw₁
    refine ⟨w₂, t₂, ?_, ?_⟩
    · rw [appendAll, happend]
      exact hrest
    · rwa [List.append_assoc, List.singleton_append] at hholds₂

/-- The permission bits are for the owner only when those found at the path before were, if any. -/
theorem ownerOnly_modeAfter_iff (h : t.HasPlace cwd path l) :
    FileMode.OwnerOnly (modeAfter (t.get? l)) ↔
      ∀ k n, t.lookup cwd path = .ok (k, n) → FileMode.OwnerOnly n.mode := by
  have hlookup : ∀ k n, t.lookup cwd path = .ok (k, n) ↔ l = k ∧ t.get? k = some n := by
    intro k n
    simp [FileTree.lookup_eq_ok_iff, h.locate, h.no_slash]
  simp only [hlookup]
  cases hn : t.get? l with
  | none =>
    constructor
    · rintro - k n ⟨rfl, hk⟩
      rw [hn] at hk
      cases hk
    · intro _
      exact ownerOnly_mode
  | some n =>
    obtain ⟨content, m, rfl⟩ := h.regular n hn
    constructor
    · rintro hm k n ⟨rfl, hk⟩
      rw [hn, Option.some.injEq] at hk
      exact hk ▸ hm
    · intro hm
      exact hm l _ ⟨rfl, hn⟩

/-- A key file can be opened at its place and receive records, and they are found at its path under
the permission bits of what was there before. -/
theorem create_appendAll (h : t.HasPlace cwd path l) (rs : List Record) :
    ∃ t₁ w' t₂, create t cwd path = .ok (⟨path, l, 0, 0⟩, t₁) ∧
      appendAll t₁ ⟨path, l, 0, 0⟩ rs = .ok (w', t₂) ∧
      t₂.lookup cwd path = .ok (l, .file (fileBytes rs) (modeAfter (t.get? l))) := by
  obtain ⟨t₁, hcreate, hholds⟩ : ∃ t₁, create t cwd path = .ok (⟨path, l, 0, 0⟩, t₁) ∧
      Holds cwd path l (t.get? l) (some []) t₁ := create_eq h rfl
  obtain ⟨w', t₂, happend, hholds₂⟩ := appendAll_eq hholds ⟨path, l, 0, 0⟩ rfl rfl rs
  exact ⟨t₁, w', t₂, hcreate, happend, hholds₂.lookup_eq h.no_slash⟩

/-! ## Top theorem -/

/-- **Keys are open to the owner only exactly when the file was so before**, or was not there.
Opening the file empties it, and every record can then be added. -/
theorem ownerOnly_iff_before {w : KeyWriter} {t₁ : FileTree}
    (hclear : t.Clear cwd path) (hcreate : create t cwd path = .ok (w, t₁)) (rs : List Record) :
    ∃ w' t₂ m, appendAll t₁ w rs = .ok (w', t₂) ∧
      t₂.lookup cwd path = .ok (w.location, .file (fileBytes rs) m) ∧
      (FileMode.OwnerOnly m ↔
        ∀ k n, t.lookup cwd path = .ok (k, n) → FileMode.OwnerOnly n.mode) := by
  obtain ⟨l, hplace⟩ := hasPlace_of_create hcreate hclear
  obtain ⟨t', w', t₂, heq, happend, hlookup⟩ := create_appendAll hplace rs
  rw [hcreate] at heq
  cases heq
  exact ⟨w', t₂, _, happend, hlookup, ownerOnly_modeAfter_iff hplace⟩

/-- A file that only its owner may read and write is emptied and receives a key. -/
theorem ownerOnly_iff_before_private :
    let t : FileTree := ⟨[(["keys.txt"], .file ByteArray.empty 0o600)]⟩
    let r : Record := ⟨.sr25519, "Secret seed: 0xa".toList⟩
    t.Clear "/" "keys.txt" ∧ ∃ w t₁, create t "/" "keys.txt" = .ok (w, t₁) ∧
      ∃ w' t₂ m, appendAll t₁ w [r] = .ok (w', t₂) ∧
        t₂.lookup "/" "keys.txt" = .ok (w.location, .file (fileBytes [r]) m) ∧
        FileMode.OwnerOnly m := by
  intro t r
  have hplace : t.HasPlace "/" "keys.txt" ["keys.txt"] := hasPlace_keyFile _
  obtain ⟨t₁, -, -, hcreate, -, -⟩ := create_appendAll hplace [r]
  obtain ⟨w', t₂, m, happend, hlookup, hm⟩ := ownerOnly_iff_before hplace.clear hcreate [r]
  refine ⟨hplace.clear, _, t₁, hcreate, w', t₂, m, happend, hlookup, hm.mpr ?_⟩
  exact (ownerOnly_modeAfter_iff hplace).mp (by decide)

/-- A file that everyone may read stays so when it receives a key. -/
theorem readable_keys_stay_readable :
    let t : FileTree := ⟨[(["keys.txt"], .file ByteArray.empty 0o644)]⟩
    let r : Record := ⟨.sr25519, "Secret seed: 0xa".toList⟩
    ∃ w t₁ w' t₂ l m, create t "/" "keys.txt" = .ok (w, t₁) ∧
      appendAll t₁ w [r] = .ok (w', t₂) ∧
      t₂.lookup "/" "keys.txt" = .ok (l, .file (fileBytes [r]) m) ∧ ¬FileMode.OwnerOnly m := by
  intro t r
  have hplace : t.HasPlace "/" "keys.txt" ["keys.txt"] := hasPlace_keyFile _
  obtain ⟨t₁, w', t₂, hcreate, happend, hlookup⟩ := create_appendAll hplace [r]
  exact ⟨_, t₁, w', t₂, _, _, hcreate, happend, hlookup, by decide⟩

end KeyFile

end ValidatorKeys
