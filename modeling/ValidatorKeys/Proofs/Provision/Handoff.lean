import ValidatorKeys.Proofs.Provision.Rounds

/-!
# From generation to insertion

The key file is all that passes from a generation pass to the insertion pass after it.  When no
command touches it, the lines that insertion reads are those of the keys that generation reported:
one line to a key, in order, and the token of each line has the fingerprint of its key.  So a round
inserts only keys that it generated.

    readLines after generationPass = (seedRecords schemes outputs).map Record.line
    k ∈ inserted of a round → (k.scheme, k.fingerprint) ∈ generated of the same round
-/

namespace ValidatorKeys

open Text (IsLine)

/-! ## What is handed over -/

/-- Nothing but a regular file stands where a path leads. -/
def FileTree.Clear (t : FileTree) (cwd path : String) : Prop :=
  ∀ l n, t.locate cwd path = .ok l → t.get? l = some n → ∃ content mode, n = .file content mode

/-- The lines of a key file hold what a generation pass reports of these outputs. -/
structure HandedOver (schemes : List Scheme) (outputs : List String) (report : GenerateReport)
    (lines : List (List Char)) : Prop where
  /-- One line to each record, in order. -/
  lines_eq : lines = (seedRecords schemes outputs).map Record.line
  /-- One entry of the report to each record, in order. -/
  generated_eq : report.generated = (seedRecords schemes outputs).map Record.key
  /-- The tokens in the lines of a scheme have the fingerprints reported for it, entry by entry. -/
  fingerprints_eq : ∀ s, (candidates lines s).map (Option.map Token.fingerprint) =
    (report.generated.filter fun k => k.scheme = s).map GeneratedKey.fingerprint

/-- Both passes of a round, of which insertion inserts only what generation made. -/
def RoundReport.OwnKeys (round : RoundReport) : Prop :=
  ∃ g i, round.generate = some g ∧ round.insert = some i ∧
    ∀ k ∈ i.inserted, ⟨k.scheme, some k.fingerprint⟩ ∈ g.generated

/-! ## Lemmas -/

theorem handedOver_report (schemes : List Scheme) (outputs : List String) :
    HandedOver schemes outputs (generateReport schemes outputs)
      ((seedRecords schemes outputs).map Record.line) where
  lines_eq := rfl
  generated_eq := rfl
  fingerprints_eq s := by
    rw [candidates_map_line, generateReport, List.filter_map, List.map_map, List.map_map]
    rfl

/-- What is inserted from the lines of records was generated with them. -/
theorem mem_generated_of_mem_inserted {schemes : List Scheme} {outputs : List String}
    {policy : ConflictPolicy} {bs : List Binding} {c : Consumed} {k : InsertedKey}
    (h : k ∈ (Assignment.report
      (assign policy ((seedRecords schemes outputs).map Record.line) bs c)).inserted) :
    ⟨k.scheme, some k.fingerprint⟩ ∈ (generateReport schemes outputs).generated := by
  obtain ⟨⟨b, t?⟩, ha, hk⟩ := List.mem_filterMap.mp h
  obtain ⟨t, rfl, rfl⟩ := Option.map_eq_some_iff.mp hk
  have ht := some_mem_candidates_of_mem_assign _ _ _ _ _ _ ha
  rw [candidates_map_line, List.mem_map] at ht
  obtain ⟨r, hr, hext⟩ := ht
  obtain ⟨hr, hs⟩ := List.mem_filter.mp hr
  refine List.mem_map.mpr ⟨r, hr, ?_⟩
  rw [Record.key, hext, of_decide_eq_true hs]
  rfl

theorem KeyFile.Holds.clear {t : FileTree} {cwd path : String} {l : Location}
    {before : Option Node} {rs : List Record} (h : Holds cwd path l before (some rs) t) :
    t.Clear cwd path := by
  obtain ⟨hloc, hget⟩ := h
  intro l' n hl' hn
  rw [hloc, Except.ok.injEq] at hl'
  rw [← hl', hget, Option.some.injEq] at hn
  exact ⟨_, _, hn.symm⟩

theorem FileTree.HasPlace.clear {t : FileTree} {cwd path : String} {l : Location}
    (h : t.HasPlace cwd path l) : t.Clear cwd path := by
  intro l' n hl' hn
  rw [h.locate, Except.ok.injEq] at hl'
  exact h.regular n (hl' ▸ hn)

/-- A key file that could be opened has a place. -/
theorem KeyFile.hasPlace_of_create {t t' : FileTree} {cwd path : String} {w : KeyWriter}
    (h : create t cwd path = .ok (w, t')) (hclear : t.Clear cwd path) :
    ∃ l, t.HasPlace cwd path l := by
  obtain ⟨hlocate, hslash, -⟩ := FileTree.openEmpty_cases (create_eq_ok_iff.mp h).2
  exact ⟨w.location, hlocate, hslash, fun n hn => hclear w.location n hlocate hn⟩

/-- So has the key file of a generation pass that came to its end. -/
theorem hasPlace_of_generationPass {σ : Type} {r : Runner σ} {cwd node path : String}
    {password : Password} {schemes : List Scheme} {s s' : Session σ} {report : GenerateReport}
    (h : generationPass r cwd node password path schemes s = (.ok report, s'))
    (hclear : s.files.Clear cwd path) : ∃ l, s.files.HasPlace cwd path l := by
  obtain ⟨w, s₁, hcreate, -⟩ := Run.ok_of_bind_ok h
  simp only [Run.changeFiles] at hcreate
  cases hc : KeyFile.create s.files cwd path with
  | ok x => exact KeyFile.hasPlace_of_create hc hclear
  | error e =>
    rw [hc] at hcreate
    cases hcreate

section

variable {σ : Type} {r : Runner σ} {cwd path : String} (hsp : r.Spares cwd path)

include hsp

/-- What a generation pass that came to its end leaves behind. -/
theorem generationPass_ok {node : String} {password : Password} {schemes : List Scheme}
    {s s' : Session σ} {report : GenerateReport}
    (h : generationPass r cwd node password path schemes s = (.ok report, s'))
    (hclear : s.files.Clear cwd path) :
    ∃ l outputs, Path.endsInSlash path = false ∧ outputs.length = schemes.length ∧
      Asked r s.state (generationLog node password.payload schemes outputs) s'.state ∧
      KeyFile.Holds cwd path l (s.files.get? l) (some (seedRecords schemes outputs)) s'.files ∧
      report = generateReport schemes outputs := by
  obtain ⟨l, hplace⟩ := hasPlace_of_generationPass h hclear
  have hconducts := generationPass_conducts hsp hplace.no_slash hplace.regular node password
    schemes none s ⟨hplace.locate, rfl⟩
  obtain ⟨log, outputs, kept, ht, ha, -, hF, hreport, hkept⟩ := hconducts.of_ok h
  cases ht with
  | keep ht =>
    obtain ⟨hlen, rfl⟩ := ht.of_generation
    rw [hkept] at hF
    exact ⟨l, outputs, hplace.no_slash, hlen, ha, hF, hreport⟩

/-- **A round inserts only what it generated**, and so does every round after it. -/
theorem Provisioner.ownKeys_of_runRounds {p : Provisioner} (hcwd : p.environment.directory = cwd)
    (hpath : p.keyFile = path) {password : Password} {first left : Nat} {s s' : Session σ}
    {rounds : List RoundReport} (h : p.runRounds r password first left s = (.ok rounds, s'))
    (hclear : s.files.Clear cwd path) :
    ∀ round ∈ rounds, round.OwnKeys := by
  induction left generalizing first s rounds with
  | zero =>
    cases h
    simp
  | succ left ih =>
    subst hcwd hpath
    rw [Provisioner.runRounds, Run.note_bind] at h
    obtain ⟨g, s₁, hg, h⟩ := Run.ok_of_bind_ok h
    obtain ⟨i, s₂, hi, h⟩ := Run.ok_of_bind_ok h
    obtain ⟨rest, s₃, hrest, h⟩ := Run.ok_of_bind_ok h
    cases h
    rw [Provisioner.generate, Run.note_bind] at hg
    rw [Provisioner.insert, Run.note_bind] at hi
    obtain ⟨l, outputs, hslash, -, -, hF, rfl⟩ :=
      generationPass_ok hsp (Run.ok_of_mapError_ok hg) hclear
    have hconducts := insertionPass_conducts hsp hslash p.node p.config.keys.conflictPolicy
      password p.config.keys.bindings (fun r hr => isLine_of_mem_seedRecords hr)
      { s₁ with notices := s₁.notices ++ [.insertionStarted] } hF
    obtain ⟨log, _, kept, -, -, -, hF', rfl, hkept⟩ := hconducts.of_ok (Run.ok_of_mapError_ok hi)
    rw [hkept] at hF'
    intro round hround
    rcases List.mem_cons.mp hround with rfl | hround
    · exact ⟨_, _, rfl, rfl, fun k hk => mem_generated_of_mem_inserted hk⟩
    · exact ih hrest (KeyFile.Holds.clear hF') round hround

end

/-! ## Top theorem -/

/-- **Insertion sees what generation reported**, when nothing but a regular file stands where the
key file goes and no command touches it. -/
theorem insertion_sees_generation {σ : Type} (r : Runner σ) (cwd path : String)
    (hsp : r.Spares cwd path)
    (hclear : ∀ c i t st, t.Clear cwd path → (r.run c i t st).files.Clear cwd path) :
    (∀ node password schemes s report s', s.files.Clear cwd path →
      generationPass r cwd node password path schemes s = (.ok report, s') →
      ∃ outputs lines, outputs.length = schemes.length ∧
        Asked r s.state (generationLog node password.payload schemes outputs) s'.state ∧
        KeyFile.readLines s'.files cwd path = .ok lines ∧
        HandedOver schemes outputs report lines) ∧
    ∀ (p : Provisioner) password s report s', p.environment.directory = cwd → p.keyFile = path →
      s.files.Clear cwd path → p.provision r password s = (.ok report, s') →
      ∀ round ∈ report.rounds, round.OwnKeys := by
  constructor
  · intro node password schemes s report s' hs h
    obtain ⟨l, outputs, hslash, hlen, hasked, hF, rfl⟩ := generationPass_ok hsp h hs
    have hread := KeyFile.readLines_eq hF hslash fun r hr => isLine_of_mem_seedRecords hr
    exact ⟨outputs, _, hlen, hasked, hread, handedOver_report schemes outputs⟩
  · intro p password s report s' hcwd hpath hs h
    rw [Provisioner.provision_eq] at h
    obtain ⟨_, s₁, htools, h⟩ := Run.ok_of_bind_ok h
    obtain ⟨_, s₂, hbuild, h⟩ := Run.ok_of_bind_ok h
    obtain ⟨rounds, s₃, hrounds, h⟩ := Run.ok_of_bind_ok h
    cases h
    have h₁ : s₁.files = s.files := by
      obtain ⟨notices, heq⟩ := p.checkTools_eq s
      rw [heq] at htools
      exact (congrArg (fun x => x.2.files) htools).symm
    have h₂ := Provisioner.holds_of_build_ok hclear hbuild (h₁ ▸ hs)
    exact Provisioner.ownKeys_of_runRounds hsp hcwd hpath hrounds h₂

/-- Seed lines with different ends, one output without a seed line, and a scheme left without an
output. -/
theorem insertion_sees_generation_scripted :
    let p : Provisioner := {
      config := {
        node := { binary := "node" }, keys := { rounds := 2 }, tools := { required := [] } }
      environment := ⟨"/", []⟩
      skipBuild := true }
    let password : Password := ⟨"pw", by decide⟩
    let s : Session (List Answer) := {
      files := {}
      state := [.output "Secret seed: 0xa\r\nx", .output "no seed",
        .output " Secret seed:\t0xb \r\r\n"] }
    (∃ report s' outputs lines,
      generationPass scripted "/" "node" password "keys.txt" defaultSchemes s = (.ok report, s') ∧
      KeyFile.readLines s'.files "/" "keys.txt" = .ok lines ∧
      HandedOver defaultSchemes outputs report lines) ∧
    ∃ report s', p.provision scripted password s = (.ok report, s') ∧
      ∀ round ∈ report.rounds, round.OwnKeys := by
  intro p password s
  have hplace : s.files.HasPlace "/" "keys.txt" ["keys.txt"] := KeyFile.hasPlace_empty
  have hpath : p.keyFile = "keys.txt" := by decide +kernel
  have hanswers : ∀ log st, Asked scripted s.state log st → ∀ x ∈ log, ∃ o, x.answer = .ok o := by
    intro log st h
    refine h.answers_of_script scripted_plays fun n c => ?_
    rcases n with _ | _ | _ | n
    · exact ⟨_, rfl⟩
    · exact ⟨_, rfl⟩
    · exact ⟨_, rfl⟩
    · exact ⟨_, rfl⟩
  have hmain := insertion_sees_generation scripted "/" "keys.txt" (scripted_spares _ _)
    fun c i t st h => by rwa [scripted_files]
  obtain ⟨report, s₁, _, _, _, hpass, -⟩ :=
    (generationPass_conducts (scripted_spares _ _) hplace.no_slash hplace.regular "node" password
      defaultSchemes none s ⟨hplace.locate, rfl⟩).ok_of_answers hanswers
  obtain ⟨report', s₂, _, _, _, hrun, -⟩ :=
    (Provisioner.provision_conducts (scripted_spares _ _) (hpath ▸ hplace.no_slash) hplace.regular
      (Or.inl rfl) password s rfl ⟨hpath ▸ hplace.locate, rfl⟩).ok_of_answers hanswers
  obtain ⟨outputs, lines, -, -, hread, hover⟩ := hmain.1 _ _ _ _ _ _ hplace.clear hpass
  exact ⟨⟨report, s₁, outputs, lines, hpass, hread, hover⟩, report', s₂, hrun,
    hmain.2 p password s report' s₂ rfl hpath hplace.clear hrun⟩

end ValidatorKeys
