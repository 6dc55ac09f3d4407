import ValidatorKeys.Proofs.KeyFile.Place
import ValidatorKeys.Provision.Generation

/-!
# Generation as a dialogue

A generation pass asks for one key to each scheme and keeps the records of the outputs so far, from
none on.  Its report, and what the key file holds in the end, are functions of the outputs.

    generationPass r … schemes  conducts  keep [] (generation node payload [] schemes)
    after the outputs os: report = generateReport schemes os, records = seedRecords schemes os
-/

namespace ValidatorKeys

/-! ## Algorithm -/

def generateCall (node payload : String) (s : Scheme) : Call :=
  ⟨generateCommand node s, some payload⟩

/-- Asks for one key to each scheme, behind the records kept so far, and answers the outputs. -/
def generation (node payload : String) : List Record → List Scheme → Dialogue (List String)
  | _, [] => .done []
  | rs, s :: rest => .ask (generateCall node payload s) fun o =>
      .keep (rs ++ (recordOf? s o).toList)
        ((generation node payload (rs ++ (recordOf? s o).toList) rest).bind fun os =>
          .done (o :: os))

def generationLog (node payload : String) (schemes : List Scheme) (outputs : List String) :
    List Exchange :=
  (schemes.zip outputs).map fun x => ⟨generateCall node payload x.1, .ok x.2⟩

/-! ## Lemmas -/

theorem seedRecords_cons (s : Scheme) (schemes : List Scheme) (o : String) (outputs : List String) :
    seedRecords (s :: schemes) (o :: outputs) =
      (recordOf? s o).toList ++ seedRecords schemes outputs := by
  unfold seedRecords
  rw [List.zip_cons_cons, List.filterMap_cons]
  cases recordOf? s o <;> rfl

theorem generateReport_cons_of_some {s : Scheme} {o : String} {r : Record}
    (h : recordOf? s o = some r) (schemes : List Scheme) (outputs : List String) :
    generateReport (s :: schemes) (o :: outputs) =
      { generateReport schemes outputs with
        generated := r.key :: (generateReport schemes outputs).generated } := by
  unfold generateReport
  rw [seedRecords_cons, List.zip_cons_cons, List.filterMap_cons]
  simp only [h]
  rfl

theorem generateReport_cons_of_none {s : Scheme} {o : String} (h : recordOf? s o = none)
    (schemes : List Scheme) (outputs : List String) :
    generateReport (s :: schemes) (o :: outputs) =
      { generateReport schemes outputs with
        skipped := s :: (generateReport schemes outputs).skipped } := by
  unfold generateReport
  rw [seedRecords_cons, List.zip_cons_cons, List.filterMap_cons]
  simp only [h]
  rfl

/-- The calls of a generation are those of as many schemes as were answered. -/
theorem map_call_generationLog (node payload : String) (schemes : List Scheme)
    (outputs : List String) :
    (generationLog node payload schemes outputs).map Exchange.call =
      (schemes.take outputs.length).map (generateCall node payload) := by
  unfold generationLog
  induction schemes generalizing outputs with
  | nil => simp
  | cons s rest ih =>
    cases outputs with
    | nil => rfl
    | cons o os => exact congrArg (generateCall node payload s :: ·) (ih os)

/-- Wherever a generation ends, it asked for the schemes in order, and the records kept are those of
the outputs that it was answered. -/
theorem Transcript.of_generation_upTo {node payload : String} {rs : List Record}
    {schemes : List Scheme} {log : List Exchange} {y : Except RunError (List String)}
    {kept : Option (List Record)}
    (h : Transcript (generation node payload rs schemes) log y kept) :
    ∃ outputs last, log = generationLog node payload schemes outputs ++ last ∧
      kept.or (some rs) = some (rs ++ seedRecords schemes outputs) ∧
      match y with
      | .ok os => os = outputs ∧ outputs.length = schemes.length ∧ last = []
      | .error e => ∃ s, schemes[outputs.length]? = some s ∧
          last = [⟨generateCall node payload s, .error e⟩] := by
  induction schemes generalizing rs log y kept with
  | nil =>
    cases h with
    | done => exact ⟨[], [], rfl, by simp [seedRecords], rfl, rfl, rfl⟩
  | cons s rest ih =>
    cases h with
    | failed _ _ e =>
      exact ⟨[], [⟨generateCall node payload s, .error e⟩], rfl, by simp [seedRecords], s, rfl, rfl⟩
    | @answered _ _ o _ _ _ h =>
      cases h with
      | keep h =>
        rcases h.of_bind with ⟨e, rfl, hd⟩ | ⟨log₁, log₂, os, kept₁, kept₂, rfl, rfl, h₁, h₂⟩
        · obtain ⟨outputs, last, rfl, hkept, hlast⟩ := ih hd
          refine ⟨o :: outputs, last, rfl, ?_, hlast⟩
          rw [Option.or_assoc, Option.some_or, hkept, seedRecords_cons, List.append_assoc]
        · cases h₂ with
          | done =>
            obtain ⟨outputs, last, rfl, hkept, rfl, hlen, rfl⟩ := ih h₁
            refine ⟨o :: os, [], by simp [generationLog], ?_, rfl, by simp [hlen], rfl⟩
            rw [Option.none_or, Option.or_assoc, Option.some_or, hkept, seedRecords_cons,
              List.append_assoc]

/-- A generation that came to its end asked for each scheme once and answers the outputs. -/
theorem Transcript.of_generation {node payload : String} {rs : List Record}
    {schemes : List Scheme} {log : List Exchange} {outputs : List String}
    {kept : Option (List Record)}
    (h : Transcript (generation node payload rs schemes) log (.ok outputs) kept) :
    outputs.length = schemes.length ∧
      log = generationLog node payload schemes outputs := by
  obtain ⟨_, _, rfl, -, rfl, hlen, rfl⟩ := h.of_generation_upTo
  exact ⟨hlen, by rw [List.append_nil]⟩

section

variable {σ : Type} {r : Runner σ} {cwd path : String} {l : Location} {before : Option Node}
  (hsp : r.Spares cwd path) (hslash : Path.endsInSlash path = false)
  (hbefore : ∀ n, before = some n → ∃ content mode, n = .file content mode)

include hsp

theorem generateKeys_conducts (node payload : String) (schemes : List Scheme) (rs : List Record)
    (w : KeyWriter) (hl : w.location = l) (hw : w.position = (fileBytes rs).size) (s : Session σ)
    (hF : KeyFile.Holds cwd path l before (some rs) s.files) :
    Run.Conducts r (KeyFile.Holds cwd path l before) PassError.run
      (generateKeys r node payload w schemes) (generation node payload rs schemes)
      (fun x outputs kept => x.1 = generateReport schemes outputs ∧
        kept = some (rs ++ seedRecords schemes outputs)) (some rs) s := by
  induction schemes generalizing rs w s with
  | nil => exact Run.conducts_pure hF ⟨rfl, by simp [seedRecords]⟩
  | cons sch rest ih =>
    refine Run.conducts_ask (hsp.steady l before) hF (generateCommand node sch) (some payload)
      fun o s' hF' => Run.Conducts.keep ?_
    cases hfind : SeedLine.find o.toList with
    | some line =>
      have hrec : recordOf? sch o = some ⟨sch, line⟩ := by rw [recordOf?, hfind]; rfl
      obtain ⟨w', t', happ, hl', hw', hF''⟩ := KeyFile.append_eq hF' w hl hw ⟨sch, line⟩
      simp only
      refine Run.conducts_changeFiles_bind happ (Run.conducts_note_bind ?_)
      rw [hrec, Option.toList_some]
      refine (ih _ w' hl' hw' _ ?_).bind fun x os kept s'' hR hF₂ => ?_
      · exact hF''
      obtain ⟨report, w''⟩ := x
      obtain ⟨rfl, rfl⟩ := hR
      refine Run.conducts_pure hF₂ ⟨?_, ?_⟩
      · rw [generateReport_cons_of_some hrec]
        rfl
      · rw [seedRecords_cons, hrec, List.append_assoc]
        rfl
    | none =>
      have hrec : recordOf? sch o = none := by rw [recordOf?, hfind]; rfl
      simp only
      refine Run.conducts_note_bind ?_
      rw [hrec, Option.toList_none, List.append_nil]
      refine (ih rs w hl hw _ ?_).bind fun x os kept s'' hR hF₂ => ?_
      · exact hF'
      obtain ⟨report, w''⟩ := x
      obtain ⟨rfl, rfl⟩ := hR
      refine Run.conducts_pure hF₂ ⟨?_, ?_⟩
      · rw [generateReport_cons_of_none hrec]
      · rw [seedRecords_cons, hrec]
        rfl

include hslash hbefore

/-- **A generation pass starts from an empty key file**, whatever the file held. -/
theorem generationPass_conducts (node : String) (password : Password) (schemes : List Scheme)
    (kept₀ : Option (List Record)) (s : Session σ)
    (hF : KeyFile.Holds cwd path l before kept₀ s.files) :
    Run.Conducts r (KeyFile.Holds cwd path l before) PassError.run
      (generationPass r cwd node password path schemes)
      (.keep [] (generation node password.payload [] schemes))
      (fun report outputs kept => report = generateReport schemes outputs ∧
        kept = some (seedRecords schemes outputs)) kept₀ s := by
  obtain ⟨hplace, hmode⟩ := hF.hasPlace hslash hbefore
  obtain ⟨t', hcreate, hF'⟩ := KeyFile.create_eq hplace hmode
  refine Run.Conducts.keep (Run.conducts_changeFiles_bind hcreate ?_)
  rw [← Dialogue.bind_done (generation node password.payload [] schemes)]
  have hempty : (fileBytes []).size = 0 := rfl
  refine (generateKeys_conducts hsp node password.payload schemes [] ⟨path, l, 0, 0⟩ rfl
    hempty.symm _ ?_).bind fun x os kept s'' hR hF₂ => ?_
  · exact hF'
  obtain ⟨report, w⟩ := x
  obtain ⟨rfl, rfl⟩ := hR
  exact Run.conducts_note_bind (Run.conducts_pure hF₂ ⟨rfl, rfl⟩)

end

end ValidatorKeys
