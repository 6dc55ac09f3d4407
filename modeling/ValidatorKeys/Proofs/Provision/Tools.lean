import ValidatorKeys.Proofs.Config.Resolution
import ValidatorKeys.Proofs.KeyFile.Place
import ValidatorKeys.Proofs.Provision.Preparation

/-!
# Where the build program is looked for

Commands run in the working directory of the configuration, if it sets one.  A build program that is
named by a relative path is looked for from the directory of the process instead.  So the check
tells whether the build can start where both paths lead to the same place; where they do not, it
sees nothing of the file that the build runs.

    sought = directory of the process + program        built = working directory + program
-/

namespace ValidatorKeys

/-! ## Programs in a tree -/

namespace FileTree

variable {t : FileTree} {l : Location} {n : Node} {cwd path : String}

/-- Where no directory stands, putting something that is none leaves where paths lead. -/
theorem locate_set_iff (hl : ∀ m, t.get? l = some m → m.isDirectory = false)
    (hn : n.isDirectory = false) {k : Location} :
    (t.set l n).locate cwd path = .ok k ↔ t.locate cwd path = .ok k := by
  refine ⟨locate_of_directories fun _ => ?_, locate_set hl n⟩
  refine hasDirectory_of_elsewhere (fun k hk => (get?_set_of_ne t l k n hk).symm) fun m hm => ?_
  rw [get?_set_self, Option.some.injEq] at hm
  exact hm ▸ hn

/-- **A file is seen at its own place only.** -/
theorem runnable?_set_elsewhere (hl : ∀ m, t.get? l = some m → m.isDirectory = false)
    (hn : n.isDirectory = false) (h : t.locate cwd path ≠ .ok l) :
    (t.set l n).runnable? cwd path = t.runnable? cwd path := by
  rw [Bool.eq_iff_iff, runnable?_iff, runnable?_iff]
  refine exists_congr fun k => exists_congr fun m => ?_
  rw [locate_set_iff hl hn]
  refine and_congr_right fun hlocate => ?_
  have hk : k ≠ l := fun heq => h (heq ▸ hlocate)
  rw [get?_set_of_ne t l k n hk]

theorem runnable?_set_self (hl : ∀ m, t.get? l = some m → m.isDirectory = false)
    (h : t.locate cwd path = .ok l) (hslash : Path.endsInSlash path = false) :
    (t.set l n).runnable? cwd path = n.isExecutable := by
  rw [runnable?, lookup, locate_set hl n h]
  simp only [get?_set_self, hslash, Bool.false_and, Bool.false_eq_true, if_false]

theorem runnable?_congr {other : String} (h : t.locate cwd path = t.locate cwd other)
    (hslash : Path.endsInSlash path = Path.endsInSlash other) :
    t.runnable? cwd path = t.runnable? cwd other := by
  rw [Bool.eq_iff_iff, runnable?_iff, runnable?_iff, h, hslash]

theorem runnable?_of_endsInSlash (t : FileTree) (cwd : String)
    (hslash : Path.endsInSlash path = true) : t.runnable? cwd path = false := by
  refine eq_false_of_ne_true fun h => ?_
  obtain ⟨_, _, -, -, hnone, -⟩ := runnable?_iff.mp h
  rw [hslash] at hnone
  cases hnone

end FileTree

/-! ## Programs named by a path -/

/-- The directory in which commands run, as an absolute path. -/
def Config.workingDirectory (c : Config) (cwd : String) : String :=
  match c.node.workingDir with
  | some dir => (Path.absolute? cwd dir).getD cwd
  | none => cwd

section

variable {program : String} (hrelative : Path.isAbsolute program = false)
  (hparts : 1 < (Path.parts program).length)

include hrelative hparts

/-- A relative path with several parts is looked for from the directory of the process. -/
theorem Environment.hasProgram_of_relative (e : Environment) (t : FileTree) :
    e.hasProgram t program =
      t.runnable? e.directory (Path.joinParts e.directory (Path.plainParts program)) := by
  have hne := Path.ne_empty_of_plainParts (Path.plainParts_ne_nil hrelative hparts)
  rw [hasProgram, findProgram, candidates, if_neg hne, if_pos hparts, if_neg (by simp [hrelative]),
    Path.dropWhile_here_parts hrelative, List.find?_singleton]
  cases t.runnable? e.directory (Path.joinParts e.directory (Path.plainParts program)) <;> rfl

variable {c : Config} {dir : String} (hdir : c.node.workingDir = some dir)

include hdir

theorem Config.absolute?_join_program (cwd : String) :
    Path.absolute? cwd (Path.join dir program) = some (c.resolvePath cwd program) :=
  absolute?_resolvePath hdir hrelative
    (fun h => Path.ne_empty_of_plainParts (Path.plainParts_ne_nil hrelative hparts) h.2) cwd

/-- A relative path with several parts is built from the working directory. -/
theorem Config.resolvePath_eq (hslash : Path.endsInSlash program = false) (cwd : String) :
    c.resolvePath cwd program =
      Path.joinParts (c.workingDirectory cwd) (Path.plainParts program) := by
  have hplain := Path.plainParts_ne_nil hrelative hparts
  have hresolve := c.absolute?_join_program hrelative hparts hdir cwd
  rw [workingDirectory, hdir]
  simp only
  by_cases hempty : dir = ""
  · -- no directory is named, and the path stands alone
    subst hempty
    have hjoin : Path.join "" program = program := by
      rw [Path.join_eq hrelative]
      exact String.empty_append
    rw [hjoin, Path.absolute?_eq (Path.ne_empty_of_plainParts hplain), hslash,
      Path.anchor_of_relative hrelative] at hresolve
    exact (Option.some.inj hresolve).symm
  · rw [Path.absolute?_join hempty hrelative hslash hplain, Path.absolute?_eq hempty,
      Option.map_some] at hresolve
    rw [Path.absolute?_eq hempty, Option.getD_some]
    exact (Option.some.inj hresolve).symm

theorem Config.endsInSlash_resolvePath (hslash : Path.endsInSlash program = true) (cwd : String) :
    Path.endsInSlash (c.resolvePath cwd program) = true := by
  have hplain := Path.plainParts_ne_nil hrelative hparts
  refine Path.endsInSlash_absolute? ?_ ?_ (c.absolute?_join_program hrelative hparts hdir cwd)
  · rw [Path.join_eq hrelative, Path.endsInSlash_append (Path.ne_empty_of_plainParts hplain),
      hslash]
  · rw [Path.plainParts_join hrelative]
    simp [hplain]

end

/-! ## The check -/

namespace Provisioner

variable {p : Provisioner} {program : String} {args : List String}

/-- The configured tools apart from a program are found. -/
def FindsOthers (p : Provisioner) (program : String) (t : FileTree) : Prop :=
  ∀ name ∈ p.config.tools.required, name ≠ program → p.environment.hasProgram t name = true

theorem mem_requiredTools (hcommand : p.config.node.buildCommand = program :: args)
    (hbuild : p.skipBuild = false) {name : String} :
    name ∈ p.requiredTools ↔ name ∈ p.config.tools.required ∨ name = program := by
  rw [requiredTools, hcommand, hbuild]
  simp only [Bool.false_or]
  split
  · next hcontains =>
    have hmem : program ∈ p.config.tools.required := by simpa using hcontains
    refine ⟨Or.inl, fun h => h.elim id ?_⟩
    rintro rfl
    exact hmem
  · simp

theorem checkTools_ok_iff {σ : Type} {s : Session σ} : (p.checkTools s).1 = .ok () ↔
    ∀ name ∈ p.requiredTools, p.environment.hasProgram s.files name = true := by
  obtain ⟨notices, heq⟩ := p.checkTools_eq s
  have hnone : p.missingTool? s.files = none ↔
      ∀ name ∈ p.requiredTools, p.environment.hasProgram s.files name = true := by
    simp [missingTool?]
  rw [heq, ← hnone]
  cases p.missingTool? s.files <;> simp

theorem checkTools_ok_iff_others (hcommand : p.config.node.buildCommand = program :: args)
    (hbuild : p.skipBuild = false) {σ : Type} {s : Session σ} :
    (p.checkTools s).1 = .ok () ↔
      p.environment.hasProgram s.files program = true ∧ p.FindsOthers program s.files := by
  rw [checkTools_ok_iff]
  simp only [mem_requiredTools hcommand hbuild]
  constructor
  · exact fun h => ⟨h program (Or.inr rfl), fun name hname _ => h name (Or.inl hname)⟩
  · rintro ⟨hprogram, hothers⟩ name hname
    by_cases heq : name = program
    · exact heq ▸ hprogram
    · exact hothers name (hname.resolve_right heq) heq

/-- **The check looks for the build program from the directory of the process**, and the build runs
it from the working directory.  Where both paths lead to the same place, the check succeeds exactly
when the file that the build runs and the other tools are found.  Where they do not, the check does
not see that file: whatever stands there and whether it may be run, the program is found as before.
A program that is named with a slash at its end is found without it and never runs. -/
theorem checkTools_seeks_from_directory {dir : String}
    (hdir : p.config.node.workingDir = some dir)
    (hcommand : p.config.node.buildCommand = program :: args) (hbuild : p.skipBuild = false)
    (hrelative : Path.isAbsolute program = false) (hparts : 1 < (Path.parts program).length) :
    let cwd := p.environment.directory
    let sought := Path.joinParts cwd (Path.plainParts program)
    let built := p.config.resolvePath cwd program
    (∀ (σ : Type) (s : Session σ), (p.checkTools s).1 = .ok () ↔
      s.files.runnable? cwd sought = true ∧ p.FindsOthers program s.files) ∧
    (Path.endsInSlash program = true → ∀ t, FileTree.runnable? t cwd built = false) ∧
    (Path.endsInSlash program = false →
      built = Path.joinParts (p.config.workingDirectory cwd) (Path.plainParts program) ∧
      (∀ (σ : Type) (s : Session σ), s.files.locate cwd sought = s.files.locate cwd built →
        ((p.checkTools s).1 = .ok () ↔
          s.files.runnable? cwd built = true ∧ p.FindsOthers program s.files)) ∧
      ∀ (t : FileTree) (l : Location), t.locate cwd built = .ok l → t.locate cwd sought ≠ .ok l →
        (∀ m, t.get? l = some m → m.isDirectory = false) → ∀ content mode,
        (t.set l (.file content mode)).runnable? cwd built = (mode &&& 0o111 != 0) ∧
        p.environment.hasProgram (t.set l (.file content mode)) program =
          p.environment.hasProgram t program) := by
  intro cwd sought built
  have hplain := Path.plainParts_ne_nil hrelative hparts
  have hprogram : ∀ t, p.environment.hasProgram t program = t.runnable? cwd sought :=
    Environment.hasProgram_of_relative hrelative hparts p.environment
  have hcheck : ∀ (σ : Type) (s : Session σ), (p.checkTools s).1 = .ok () ↔
      s.files.runnable? cwd sought = true ∧ p.FindsOthers program s.files := by
    intro σ s
    rw [checkTools_ok_iff_others hcommand hbuild, hprogram]
  refine ⟨hcheck, fun hslash t => ?_, fun hslash => ?_⟩
  · exact t.runnable?_of_endsInSlash cwd
      (Config.endsInSlash_resolvePath hrelative hparts hdir hslash cwd)
  have hbuilt : built = Path.joinParts (p.config.workingDirectory cwd) (Path.plainParts program) :=
    Config.resolvePath_eq hrelative hparts hdir hslash cwd
  have hnoslash : Path.endsInSlash sought = false ∧ Path.endsInSlash built = false := by
    rw [hbuilt]
    exact ⟨Path.endsInSlash_joinParts hplain _, Path.endsInSlash_joinParts hplain _⟩
  refine ⟨hbuilt, fun σ s hsame => ?_, fun t l hl helsewhere hfree content mode => ⟨?_, ?_⟩⟩
  · rw [hcheck, FileTree.runnable?_congr hsame (hnoslash.1.trans hnoslash.2.symm)]
  · exact FileTree.runnable?_set_self hfree hl hnoslash.2
  · rw [hprogram, hprogram]
    exact FileTree.runnable?_set_elsewhere hfree rfl helsewhere

/-- A provisioner that builds with `./build.sh` in a working directory and needs no other tool. -/
def scriptBuild (directory dir : String) : Provisioner where
  config := {
    node := { buildCommand := ["./build.sh"], workingDir := some dir }
    tools := { required := [] } }
  environment := ⟨directory, []⟩

/-- A session with a program at a place in the directory `/sub`, or next to it. -/
def scriptAt (l : Location) : Session Unit :=
  ⟨⟨[(["sub"], .directory 0o755), (l, .file ByteArray.empty 0o755)]⟩, (), [], []⟩

/-- Where the working directory is that of the process, the script is found as the build runs it;
where it is another one, a script that is put there is not seen. -/
theorem checkTools_seeks_from_directory_script :
    let same := scriptBuild "/sub" "."
    let other := scriptBuild "/" "sub"
    let s := scriptAt ["build.sh", "sub"]
    (same.config.resolvePath "/sub" "./build.sh" = "/sub/build.sh" ∧
      s.files.runnable? "/sub" "/sub/build.sh" = true ∧ (same.checkTools s).1 = .ok ()) ∧
    (other.config.resolvePath "/" "./build.sh" = "/sub/build.sh" ∧
      ∀ content mode, other.environment.hasProgram
        (s.files.set ["build.sh", "sub"] (.file content mode)) "./build.sh" = false) := by
  intro same other s
  have hrelative : Path.isAbsolute "./build.sh" = false := by decide
  have hparts : 1 < (Path.parts "./build.sh").length := by decide +kernel
  have hslash : Path.endsInSlash "./build.sh" = false := by decide
  have hsame : same.config.resolvePath "/sub" "./build.sh" = "/sub/build.sh" := by decide +kernel
  have hother : other.config.resolvePath "/" "./build.sh" = "/sub/build.sh" := by decide +kernel
  have hrun : s.files.runnable? "/sub" "/sub/build.sh" = true := by decide +kernel
  have hmissing : other.environment.hasProgram s.files "./build.sh" = false := by decide +kernel
  obtain ⟨-, -, hagrees⟩ :=
    checkTools_seeks_from_directory (p := same) rfl rfl rfl hrelative hparts
  obtain ⟨-, -, hblind⟩ :=
    (checkTools_seeks_from_directory (p := other) rfl rfl rfl hrelative hparts).2.2 hslash
  refine ⟨⟨hsame, hrun, ?_⟩, hother, fun content mode => ?_⟩
  · refine ((hagrees hslash).2.1 Unit s (by decide +kernel)).mpr ⟨?_, fun name hname => ?_⟩
    · exact hsame ▸ hrun
    · cases hname
  · have hplace : s.files.locate "/" (other.config.resolvePath "/" "./build.sh") =
        .ok ["build.sh", "sub"] := by decide +kernel
    exact (hblind s.files _ hplace (by decide +kernel) (by decide +kernel) content mode).2.trans
      hmissing

/-- Where the working directory is another one, a script there is not found, and one that is found
does not stand there. -/
theorem build_program_in_working_directory_missed :
    let p := scriptBuild "/" "sub"
    let there := scriptAt ["build.sh", "sub"]
    let here := scriptAt ["build.sh"]
    p.config.resolvePath "/" "./build.sh" = "/sub/build.sh" ∧
      (there.files.runnable? "/" "/sub/build.sh" = true ∧
        (p.checkTools there).1 = .error (.pass (.run (.missingTool "./build.sh")))) ∧
      (here.files.runnable? "/" "/sub/build.sh" = false ∧ (p.checkTools here).1 = .ok ()) := by
  refine ⟨by decide +kernel, ⟨by decide +kernel, by rfl⟩, by decide +kernel, by rfl⟩

end Provisioner

end ValidatorKeys
