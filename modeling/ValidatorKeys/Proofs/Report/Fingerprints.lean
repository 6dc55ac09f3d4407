import ValidatorKeys.Proofs.Assignment.Commands
import ValidatorKeys.Proofs.CommandLine.Refusal

/-!
# The fingerprints in a report

What a report of a run shows of a key is the fingerprint of a token, whatever the runner answered
and whatever the key file held: generation takes it from the seed line that it wrote, and insertion
from the token that it selected.

    t.Reports r  →  r.Fingerprinted
-/

namespace ValidatorKeys

variable {σ : Type}

/-! ## Definitions -/

def GenerateReport.fingerprints (r : GenerateReport) : List String :=
  r.generated.filterMap GeneratedKey.fingerprint

def InsertReport.fingerprints (r : InsertReport) : List String :=
  r.inserted.map InsertedKey.fingerprint

def RoundReport.fingerprints (r : RoundReport) : List String :=
  (match r.generate with
    | some g => g.fingerprints
    | none => []) ++
  match r.insert with
    | some i => i.fingerprints
    | none => []

def Report.fingerprints (r : Report) : List String := r.rounds.flatMap RoundReport.fingerprints

/-- Whether a text is the fingerprint of some token. -/
def IsFingerprint (f : String) : Prop := ∃ t : Token, t.fingerprint = f

/-- Every fingerprint in a report is that of a token. -/
def Report.Fingerprinted (r : Report) : Prop := ∀ f ∈ r.fingerprints, IsFingerprint f

/-- The reports that a tool may end with, over all options and all sessions. -/
inductive Tool.Reports (t : Tool σ) : Report → Prop where
  | provision {o : ProvisionOptions} {r : Report} {s s' : Session σ} :
      t.provision o s = (.ok r, s') → t.Reports r
  | generate {o : RunOptions} {r : Report} {s s' : Session σ} :
      t.generate o s = (.ok r, s') → t.Reports r
  | insert {o : RunOptions} {r : Report} {s s' : Session σ} :
      t.insert o s = (.ok r, s') → t.Reports r

/-! ## Passes -/

section

variable {r : Runner σ} {s s' : Session σ}

theorem mem_fingerprints_cons {k : GeneratedKey} {report : GenerateReport} {f : String}
    (hf : f ∈ GenerateReport.fingerprints { report with generated := k :: report.generated }) :
    k.fingerprint = some f ∨ f ∈ report.fingerprints := by
  obtain ⟨k', hk', hfk⟩ := List.mem_filterMap.mp hf
  rcases List.mem_cons.mp hk' with rfl | hk'
  · exact Or.inl hfk
  · exact Or.inr (List.mem_filterMap.mpr ⟨k', hk', hfk⟩)

theorem generateKeys_fingerprints {node payload : String} {w w' : KeyWriter}
    {schemes : List Scheme} {report : GenerateReport}
    (h : generateKeys r node payload w schemes s = (.ok (report, w'), s')) :
    ∀ f ∈ report.fingerprints, IsFingerprint f := by
  induction schemes generalizing w s report with
  | nil =>
    cases h
    exact List.forall_mem_nil _
  | cons scheme rest ih =>
    unfold generateKeys at h
    obtain ⟨output, s₁, -, h⟩ := Run.ok_of_bind_ok h
    cases hfind : SeedLine.find output.toList with
    | some line =>
      rw [hfind] at h
      obtain ⟨w₁, s₂, -, h⟩ := Run.ok_of_bind_ok h
      obtain ⟨_, s₃, -, h⟩ := Run.ok_of_bind_ok h
      obtain ⟨⟨report', w₂⟩, s₄, hrest, h⟩ := Run.ok_of_bind_ok h
      cases h
      intro f hf
      rcases mem_fingerprints_cons hf with htoken | hf
      · obtain ⟨t, -, ht⟩ := Option.map_eq_some_iff.mp htoken
        exact ⟨t, ht⟩
      · exact ih hrest f hf
    | none =>
      rw [hfind] at h
      obtain ⟨_, s₂, -, h⟩ := Run.ok_of_bind_ok h
      obtain ⟨⟨report', w₂⟩, s₃, hrest, h⟩ := Run.ok_of_bind_ok h
      cases h
      exact fun f hf => ih hrest f hf

theorem generationPass_fingerprints {cwd node path : String} {password : Password}
    {schemes : List Scheme} {report : GenerateReport}
    (h : generationPass r cwd node password path schemes s = (.ok report, s')) :
    ∀ f ∈ report.fingerprints, IsFingerprint f := by
  unfold generationPass at h
  obtain ⟨w, s₁, -, h⟩ := Run.ok_of_bind_ok h
  obtain ⟨⟨report', w'⟩, s₂, hkeys, h⟩ := Run.ok_of_bind_ok h
  obtain ⟨_, s₃, -, h⟩ := Run.ok_of_bind_ok h
  cases h
  exact generateKeys_fingerprints hkeys

theorem insertionPass_fingerprints {cwd node path : String} {policy : ConflictPolicy}
    {password : Password} {bindings : List Binding} {report : InsertReport}
    (h : insertionPass r cwd node policy password path bindings s = (.ok report, s')) :
    ∀ f ∈ report.fingerprints, IsFingerprint f := by
  unfold insertionPass at h
  obtain ⟨lines, s₁, -, h⟩ := Run.ok_of_bind_ok h
  obtain ⟨⟨report', consumed⟩, s₂, hinsert, h⟩ := Run.ok_of_bind_ok h
  obtain ⟨_, s₃, -, h⟩ := Run.ok_of_bind_ok h
  cases h
  rw [InsertReport.fingerprints, (insertLines_ok hinsert).1, Assignment.map_fingerprint_inserted]
  intro f hf
  obtain ⟨t, -, ht⟩ := List.mem_map.mp hf
  exact ⟨t, ht⟩

/-! ## Rounds -/

namespace Provisioner

variable {p : Provisioner} {password : Password}

theorem generate_fingerprints {report : GenerateReport}
    (h : p.generate r password s = (.ok report, s')) :
    ∀ f ∈ report.fingerprints, IsFingerprint f := by
  unfold generate at h
  obtain ⟨_, s₁, -, h⟩ := Run.ok_of_bind_ok h
  exact generationPass_fingerprints (Run.ok_of_mapError_ok h)

theorem insert_fingerprints {report : InsertReport}
    (h : p.insert r password s = (.ok report, s')) :
    ∀ f ∈ report.fingerprints, IsFingerprint f := by
  unfold insert at h
  obtain ⟨_, s₁, -, h⟩ := Run.ok_of_bind_ok h
  exact insertionPass_fingerprints (Run.ok_of_mapError_ok h)

theorem runRounds_fingerprints {first left : Nat} {reports : List RoundReport}
    (h : p.runRounds r password first left s = (.ok reports, s')) :
    ∀ f ∈ reports.flatMap RoundReport.fingerprints, IsFingerprint f := by
  induction left generalizing first s reports with
  | zero =>
    cases h
    exact List.forall_mem_nil _
  | succ left ih =>
    unfold runRounds at h
    obtain ⟨_, s₁, -, h⟩ := Run.ok_of_bind_ok h
    obtain ⟨g, s₂, hg, h⟩ := Run.ok_of_bind_ok h
    obtain ⟨i, s₃, hi, h⟩ := Run.ok_of_bind_ok h
    obtain ⟨rest, s₄, hrest, h⟩ := Run.ok_of_bind_ok h
    cases h
    intro f hf
    rw [List.flatMap_cons, RoundReport.fingerprints, List.append_assoc, List.mem_append,
      List.mem_append] at hf
    rcases hf with hf | hf | hf
    · exact generate_fingerprints hg f hf
    · exact insert_fingerprints hi f hf
    · exact ih hrest f hf

theorem provision_fingerprinted {report : Report}
    (h : p.provision r password s = (.ok report, s')) : report.Fingerprinted := by
  rw [provision_eq] at h
  obtain ⟨_, s₁, -, h⟩ := Run.ok_of_bind_ok h
  obtain ⟨_, s₂, -, h⟩ := Run.ok_of_bind_ok h
  obtain ⟨rounds, s₃, hrounds, h⟩ := Run.ok_of_bind_ok h
  cases h
  exact runRounds_fingerprints hrounds

end Provisioner

end

/-! ## Tasks -/

/-- **Whatever a tool reports is fingerprinted.** -/
theorem Tool.Reports.fingerprinted {t : Tool σ} {r : Report} (h : t.Reports r) :
    r.Fingerprinted := by
  cases h with
  | provision h =>
    unfold Tool.provision at h
    obtain ⟨c, s₁, -, h⟩ := Run.ok_of_bind_ok h
    obtain ⟨_, s₂, -, h⟩ := Run.ok_of_bind_ok h
    obtain ⟨_, s₃, -, h⟩ := Run.ok_of_bind_ok h
    obtain ⟨password, s₄, -, h⟩ := Run.ok_of_bind_ok h
    exact Provisioner.provision_fingerprinted (Run.ok_of_mapError_ok h)
  | generate h =>
    unfold Tool.generate at h
    obtain ⟨c, s₁, -, h⟩ := Run.ok_of_bind_ok h
    obtain ⟨_, s₂, -, h⟩ := Run.ok_of_bind_ok h
    obtain ⟨password, s₃, -, h⟩ := Run.ok_of_bind_ok h
    obtain ⟨g, s₄, hg, h⟩ := Run.ok_of_bind_ok h
    cases h
    intro f hf
    simp only [Report.fingerprints, RoundReport.fingerprints, List.flatMap_singleton,
      List.append_nil] at hf
    exact Provisioner.generate_fingerprints (Run.ok_of_mapError_ok hg) f hf
  | insert h =>
    rw [Tool.insert_eq] at h
    obtain ⟨c, s₁, -, h⟩ := Run.ok_of_bind_ok h
    obtain ⟨_, s₂, -, h⟩ := Run.ok_of_bind_ok h
    obtain ⟨_, s₃, -, h⟩ := Run.ok_of_bind_ok h
    obtain ⟨password, s₄, -, h⟩ := Run.ok_of_bind_ok h
    obtain ⟨i, s₅, hi, h⟩ := Run.ok_of_bind_ok h
    cases h
    intro f hf
    simp only [Report.fingerprints, RoundReport.fingerprints, List.flatMap_singleton,
      List.nil_append] at hf
    exact Provisioner.insert_fingerprints (Run.ok_of_mapError_ok hi) f hf

end ValidatorKeys
