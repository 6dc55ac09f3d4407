import ValidatorKeys.Config.Settings
import ValidatorKeys.Proofs.File.AbsoluteNames

/-!
# Resolved paths

Where a working directory is set, a relative path is resolved to an absolute name of the file that
it names behind that directory, so that it names the same file wherever the process goes.  Any
other path stays as it is.  What is resolved once is therefore not changed by resolving it again.

    AbsoluteName (join (join cwd dir) p) (resolvePath cwd p)          unless dir and p are empty
    resolvePath cwd (resolvePath cwd p) = resolvePath cwd p
-/

namespace ValidatorKeys.Config

variable {c : Config} {dir p : String}

/-! ## Paths that stay as they are -/

theorem resolvePath_of_absolute (hp : Path.isAbsolute p = true) (c : Config) (cwd : String) :
    c.resolvePath cwd p = p := by
  unfold resolvePath
  split
  · rw [if_pos hp]
  · rfl

theorem resolvePath_of_unset (hunset : c.node.workingDir = none) (cwd p : String) :
    c.resolvePath cwd p = p := by
  rw [resolvePath, hunset]

/-! ## Relative paths -/

section

variable (hdir : c.node.workingDir = some dir) (hp : Path.isAbsolute p = false)

include hdir hp

theorem resolvePath_of_relative (cwd : String) : c.resolvePath cwd p =
    (Path.absolute? cwd (Path.join dir p)).getD (Path.join dir p) := by
  rw [resolvePath, hdir]
  simp only [hp, Bool.false_eq_true, if_false]

theorem absolute?_resolvePath (hne : ¬(dir = "" ∧ p = "")) (cwd : String) :
    Path.absolute? cwd (Path.join dir p) = some (c.resolvePath cwd p) := by
  have hjoin : Path.join dir p ≠ "" := by
    rw [Path.join_eq hp]
    intro h
    obtain ⟨hbehind, hempty⟩ := String.append_eq_empty_iff.mp h
    exact hne ⟨Decidable.byContradiction fun h => Path.behind_ne_empty h hbehind, hempty⟩
  rw [resolvePath_of_relative hdir hp, Path.absolute?_eq hjoin, Option.getD_some]

/-- **A resolved path** names the file that the path names behind the working directory. -/
theorem absoluteName_resolvePath {cwd : String} (hcwd : Path.isAbsolute cwd = true)
    (hne : ¬(dir = "" ∧ p = "")) :
    Path.AbsoluteName (Path.join (Path.join cwd dir) p) (c.resolvePath cwd p) := by
  rw [Path.join_join]
  exact Path.absoluteName_absolute? (absolute?_resolvePath hdir hp hne cwd) hcwd

end

/-! ## Resolving again -/

section

variable {cwd : String} (hcwd : Path.isAbsolute cwd = true)

include hcwd

theorem resolvePath_eq_or_absolute (c : Config) (p : String) :
    c.resolvePath cwd p = p ∨ Path.isAbsolute (c.resolvePath cwd p) = true := by
  cases hdir : c.node.workingDir with
  | none => exact .inl (resolvePath_of_unset hdir cwd p)
  | some dir =>
    cases hp : Path.isAbsolute p with
    | true => exact .inl (resolvePath_of_absolute hp c cwd)
    | false =>
      by_cases hempty : dir = "" ∧ p = ""
      · -- there is nothing to make absolute
        obtain ⟨rfl, rfl⟩ := hempty
        exact .inl (resolvePath_of_relative hdir hp cwd)
      · exact .inr (absoluteName_resolvePath hdir hp hcwd hempty).absolute

theorem resolvePath_resolvePath (c : Config) (p : String) :
    c.resolvePath cwd (c.resolvePath cwd p) = c.resolvePath cwd p := by
  rcases c.resolvePath_eq_or_absolute hcwd p with heq | habsolute
  · rw [heq, heq]
  · exact resolvePath_of_absolute habsolute c cwd

theorem resolvePath_nodeProgram (hparts : 1 < (Path.parts c.node.binary).length) :
    c.resolvePath cwd (c.nodeProgram cwd) = c.nodeProgram cwd := by
  rw [nodeProgram, if_pos hparts, resolvePath_resolvePath hcwd]

end

/-! ## Top theorem -/

/-- **Resolving gives an absolute name of the same file.**  A relative path is resolved, when a
working directory is set, to an absolute path with the parts that it has behind that directory,
and which leads where that leads; other paths stay as they are.  Resolved paths are left alone, and
so are the path of the key file and that of a program with more than one part. -/
theorem resolvePath_names_same (c : Config) (cwd : String) (hcwd : Path.isAbsolute cwd = true) :
    (∀ dir p, c.node.workingDir = some dir → Path.isAbsolute p = false → ¬(dir = "" ∧ p = "") →
      Path.AbsoluteName (Path.join (Path.join cwd dir) p) (c.resolvePath cwd p)) ∧
    (∀ p, Path.isAbsolute p = true ∨ c.node.workingDir = none → c.resolvePath cwd p = p) ∧
    (∀ p, c.resolvePath cwd (c.resolvePath cwd p) = c.resolvePath cwd p) ∧
    c.resolvePath cwd (c.keyFilePath cwd) = c.keyFilePath cwd ∧
    (1 < (Path.parts c.node.binary).length →
      c.resolvePath cwd (c.nodeProgram cwd) = c.nodeProgram cwd) := by
  refine ⟨fun dir p hdir hp hne => absoluteName_resolvePath hdir hp hcwd hne, ?_,
    resolvePath_resolvePath hcwd c, resolvePath_resolvePath hcwd c c.keys.file,
    resolvePath_nodeProgram hcwd⟩
  rintro p (hp | hunset)
  · exact resolvePath_of_absolute hp c cwd
  · exact resolvePath_of_unset hunset cwd p

/-- A working directory with a leading dot, a doubled slash and a slash at its end, a key file behind
a dot and a program behind two. -/
theorem resolvePath_names_same_dotted :
    let c : Config := {
      node := { binary := "../bin/node", workingDir := some "./srv//node/" }
      keys := { file := "new/./keys.txt" } }
    c.keyFilePath "/w" = "/w/srv/node/new/keys.txt" ∧
      Path.AbsoluteName "/w/./srv//node/new/./keys.txt" (c.keyFilePath "/w") ∧
      c.resolvePath "/w" "/tmp//keys.txt" = "/tmp//keys.txt" ∧
      c.resolvePath "/w" (c.keyFilePath "/w") = c.keyFilePath "/w" ∧
      c.nodeProgram "/w" = "/w/srv/node/../bin/node" ∧
      c.resolvePath "/w" (c.nodeProgram "/w") = c.nodeProgram "/w" := by
  intro c
  obtain ⟨hrelative, hstays, -, hkeyFile, hprogram⟩ :=
    resolvePath_names_same c "/w" (by decide)
  have hjoin : Path.join (Path.join "/w" "./srv//node/") "new/./keys.txt" =
      "/w/./srv//node/new/./keys.txt" := by decide +kernel
  have hname := hrelative "./srv//node/" "new/./keys.txt" rfl (by decide) (by decide)
  rw [hjoin] at hname
  exact ⟨by decide +kernel, hname, hstays _ (.inl (by decide)), hkeyFile, by decide +kernel,
    hprogram (by decide +kernel)⟩

end ValidatorKeys.Config
