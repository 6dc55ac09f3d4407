import ValidatorKeys.Proofs.KeyFile.Place

/-!
# The key file and the search for programs

Writing a key file puts a regular file where no directory stands, with the permission bits of what
stood there.  So every path leads where it led, and every program that was found is found still,
even where the key file is a program itself.

    hasProgram e t name  →  hasProgram e t' name     after `create` and `append`
-/

namespace ValidatorKeys

/-! ## Definitions -/

/-- Every program that is found in one tree is found in the other. -/
def FileTree.KeepsPrograms (t t' : FileTree) : Prop :=
  ∀ (e : Environment) (name : String), e.hasProgram t name = true → e.hasProgram t' name = true

/-! ## Lemmas -/

namespace FileTree

variable {t t' : FileTree} {l : Location} {content : ByteArray} {mode : Nat}

theorem KeepsPrograms.refl (t : FileTree) : t.KeepsPrograms t := fun _ _ h => h

theorem keepsPrograms_of_runnable
    (h : ∀ cwd path, t.runnable? cwd path = true → t'.runnable? cwd path = true) :
    t.KeepsPrograms t' := by
  intro e name hname
  unfold Environment.hasProgram Environment.findProgram at hname ⊢
  rw [List.find?_isSome] at hname ⊢
  obtain ⟨path, hmem, hrun⟩ := hname
  exact ⟨path, hmem, h _ _ hrun⟩

/-- Where nothing stands, or a regular file with these permission bits, a regular file with them
leaves what can be run. -/
theorem runnable?_set (hl : ∀ n, t.get? l = some n → ∃ old, n = .file old mode)
    {cwd path : String} (h : t.runnable? cwd path = true) :
    (t.set l (.file content mode)).runnable? cwd path = true := by
  have hdir : ∀ n, t.get? l = some n → n.isDirectory = false := by
    intro n hn
    obtain ⟨old, rfl⟩ := hl n hn
    rfl
  obtain ⟨k, n, hlocate, hget, hslash, hexecutable⟩ := runnable?_iff.mp h
  refine runnable?_iff.mpr ⟨k, ?_⟩
  by_cases hk : k = l
  · -- the path leads to the file itself, which had these bits before
    subst hk
    obtain ⟨old, rfl⟩ := hl n hget
    exact ⟨_, locate_set hdir _ hlocate, get?_set_self .., hslash, hexecutable⟩
  · exact ⟨n, locate_set hdir _ hlocate, by rw [get?_set_of_ne t l k _ hk, hget], hslash,
      hexecutable⟩

theorem keepsPrograms_set (hl : ∀ n, t.get? l = some n → ∃ old, n = .file old mode) :
    t.KeepsPrograms (t.set l (.file content mode)) :=
  keepsPrograms_of_runnable fun _ _ => runnable?_set hl

end FileTree

namespace KeyFile

/-- Opening the key file takes no program away. -/
theorem create_keepsPrograms {t t' : FileTree} {cwd path : String} {w : KeyWriter}
    (h : create t cwd path = .ok (w, t')) : t.KeepsPrograms t' := by
  obtain ⟨-, -, rfl | ⟨m, rfl, hregular⟩⟩ := FileTree.openEmpty_cases (create_eq_ok_iff.mp h).2
  · exact .refl _
  · exact FileTree.keepsPrograms_set hregular

/-- Adding a record takes no program away. -/
theorem append_keepsPrograms {t t' : FileTree} {w w' : KeyWriter} {r : Record}
    (h : append t w r = .ok (w', t')) : t.KeepsPrograms t' := by
  unfold append at h
  split at h
  · next t₁ hwrite =>
    cases h
    obtain rfl | ⟨old, content, m, hget, rfl⟩ := FileTree.writeAt_cases hwrite
    · exact .refl _
    · exact FileTree.keepsPrograms_set (by simp [hget])
  · cases h

end KeyFile

end ValidatorKeys
