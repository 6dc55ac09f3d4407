import ValidatorKeys.Proofs.Provision.Handoff

/-!
# What a generation pass leaves, wherever it stops

A generation pass empties the key file and asks for one key after the other; the record of an answer
is in the file before the next key is asked for.  So when the pass stops, be it at its end or at a
command that fails, the file holds the records of the answers so far and nothing else, and the
commands issued are those of the schemes so far.

    after the answers outputs:
      the key file = fileBytes (seedRecords schemes outputs)
      the calls    = those of schemes.take outputs.length, and of the next scheme if it failed
-/

namespace ValidatorKeys

/-! ## Definitions -/

/-- A report that accounts for every scheme: for those whose output holds a seed line it lists a
generated key, and the others it lists as skipped. -/
structure GenerationAccount (schemes : List Scheme) (outputs : List String)
    (report : GenerateReport) : Prop where
  /-- Every scheme was answered. -/
  length_outputs : outputs.length = schemes.length
  /-- The two lists share the schemes out, both in order. -/
  generated : report.generated.map GeneratedKey.scheme =
    ((schemes.zip outputs).filter fun x => (SeedLine.find x.2.toList).isSome).map Prod.fst
  skipped : report.skipped =
    ((schemes.zip outputs).filter fun x => (SeedLine.find x.2.toList).isNone).map Prod.fst
  /-- A key is reported by the token of its seed line, if that holds one. -/
  fingerprints : report.generated.map GeneratedKey.fingerprint =
    (schemes.zip outputs).filterMap fun x => (SeedLine.find x.2.toList).map fun line =>
      (Token.extract line).map Token.fingerprint

/-- How a generation pass may end after these outputs: with every scheme answered, or with one more
command, which failed. -/
inductive GenerationEnd (node payload : String) (schemes : List Scheme) (outputs : List String) :
    List Exchange → Except PassError GenerateReport → Prop where
  | completed (report : GenerateReport) :
      GenerationAccount schemes outputs report →
      GenerationEnd node payload schemes outputs [] (.ok report)
  | stopped (s : Scheme) (e : RunError) :
      schemes[outputs.length]? = some s →
      GenerationEnd node payload schemes outputs [⟨generateCall node payload s, .error e⟩]
        (.error (.run e))

/-! ## Lemmas -/

theorem generationAccount_report {schemes : List Scheme} {outputs : List String}
    (h : outputs.length = schemes.length) :
    GenerationAccount schemes outputs (generateReport schemes outputs) where
  length_outputs := h
  generated := by
    unfold generateReport seedRecords
    induction schemes.zip outputs with
    | nil => rfl
    | cons x xs ih =>
      cases hx : SeedLine.find x.2.toList <;> simpa [recordOf?, hx, Record.key] using ih
  skipped := by
    unfold generateReport
    induction schemes.zip outputs with
    | nil => rfl
    | cons x xs ih => cases hx : SeedLine.find x.2.toList <;> simpa [recordOf?, hx] using ih
  fingerprints := by
    unfold generateReport seedRecords
    induction schemes.zip outputs with
    | nil => rfl
    | cons x xs ih =>
      cases hx : SeedLine.find x.2.toList <;> simpa [recordOf?, hx, Record.key] using ih

/-- A key file that cannot be opened ends the pass before anything is asked. -/
theorem generationPass_of_create_error {σ : Type} {r : Runner σ} {cwd path : String}
    {s : Session σ} {e : KeyFileError} (h : KeyFile.create s.files cwd path = .error e)
    (node : String) (password : Password) (schemes : List Scheme) :
    generationPass r cwd node password path schemes s = (.error (.keyFile e), s) := by
  refine Run.bind_error ?_ _
  rw [Run.changeFiles, h]

/-! ## Top theorem -/

/-- **A generation pass records exactly the seed lines that it found**, also when it stops midway.
When no command touches the key file, the file is left with the records of the answers so far,
whatever it held before, and a file that cannot be opened ends the pass before any command. -/
theorem generationPass_records {σ : Type} {r : Runner σ} {cwd path : String}
    (hsp : r.Spares cwd path) (node : String) (password : Password) (schemes : List Scheme)
    (s : Session σ) :
    (∀ e, KeyFile.create s.files cwd path = .error e →
      generationPass r cwd node password path schemes s = (.error (.keyFile e), s)) ∧
    ∀ w t, KeyFile.create s.files cwd path = .ok (w, t) → s.files.Clear cwd path →
      ∃ outputs last x s', generationPass r cwd node password path schemes s = (x, s') ∧
        Asked r s.state (generationLog node password.payload schemes outputs ++ last) s'.state ∧
        s'.calls = s.calls ++
          (schemes.take outputs.length).map (generateCall node password.payload) ++
          last.map Exchange.call ∧
        s'.files.read cwd path = .ok (fileBytes (seedRecords schemes outputs)) ∧
        GenerationEnd node password.payload schemes outputs last x := by
  refine ⟨fun e he => generationPass_of_create_error he node password schemes,
    fun w t hcreate hclear => ?_⟩
  obtain ⟨l, hplace⟩ := KeyFile.hasPlace_of_create hcreate hclear
  obtain ⟨log, y, kept, ht, hasked, hcalls, hholds, hy⟩ :=
    generationPass_conducts hsp hplace.no_slash hplace.regular node password schemes none s
      ⟨hplace.locate, rfl⟩
  rcases hrun : generationPass r cwd node password path schemes s with ⟨x, s'⟩
  rw [hrun] at hasked hcalls hholds hy
  cases ht with
  | keep ht =>
    obtain ⟨outputs, last, rfl, hkept, hlast⟩ := ht.of_generation_upTo
    rw [Option.or_none, hkept] at hholds
    rw [List.map_append, map_call_generationLog, ← List.append_assoc] at hcalls
    refine ⟨outputs, last, x, s', rfl, hasked, hcalls, hholds.read_eq hplace.no_slash, ?_⟩
    cases y with
    | ok os =>
      obtain ⟨rfl, hlen, rfl⟩ := hlast
      obtain ⟨_, rfl, rfl, -⟩ := hy
      exact .completed _ (generationAccount_report hlen)
    | error e =>
      obtain ⟨sch, hsch, rfl⟩ := hlast
      cases hy
      exact .stopped sch e hsch

/-- The third of four commands fails, after one output with a seed line and one without, into a file
that held a record before. -/
theorem generationPass_records_stopped :
    let password : Password := ⟨"pw", by decide⟩
    let content := "sr25519: old\n".toUTF8
    let answers : List Answer :=
      [.output "Secret seed: 0xa", .output "no seed", .failure "exit status: 1" "locked"]
    let s : Session (List Answer) := {
      files := ⟨[(["keys.txt"], .file content 0o644)]⟩
      state := answers }
    let call := generateCall "node" password.payload .sr25519
    scripted.Spares "/" "keys.txt" ∧ s.files.Clear "/" "keys.txt" ∧
    (∃ w t, KeyFile.create s.files "/" "keys.txt" = .ok (w, t)) ∧
    ∃ s', generationPass scripted "/" "node" password "keys.txt" defaultSchemes s =
        (.error (.run (.failed call.command.text "exit status: 1" "locked")), s') ∧
      s'.calls = [call, call, call] ∧
      s'.files.read "/" "keys.txt" = .ok (fileBytes [⟨.sr25519, "Secret seed: 0xa".toList⟩]) := by
  intro password content answers s call
  have hplace : s.files.HasPlace "/" "keys.txt" ["keys.txt"] := KeyFile.hasPlace_keyFile _
  obtain ⟨w, t, hcreate⟩ : ∃ w t, KeyFile.create s.files "/" "keys.txt" = .ok (w, t) :=
    ⟨⟨_, ["keys.txt"], 0, 0⟩, _, KeyFile.create_eq_ok_iff.mpr ⟨rfl, hplace.openEmpty_eq⟩⟩
  obtain ⟨outputs, last, x, s', hrun, hasked, hcalls, hread, hend⟩ :=
    (generationPass_records (scripted_spares "/" "keys.txt") "node" password defaultSchemes s).2
      _ _ hcreate hplace.clear
  have hgives := (hasked.gives scripted_plays).1
  refine ⟨scripted_spares _ _, hplace.clear, ⟨_, _, hcreate⟩, s', ?_⟩
  -- the third answer is the first that fails, so there are two outputs
  rcases outputs with _ | ⟨a, _ | ⟨b, _ | ⟨c, outputs⟩⟩⟩
  · cases hend with
    | completed _ h => cases h.length_outputs
    | stopped => cases hgives 0 _ rfl
  · cases hend with
    | completed _ h => cases h.length_outputs
    | stopped => cases hgives 1 _ rfl
  · cases hend with
    | completed _ h => cases h.length_outputs
    | stopped sch e hsch =>
      cases hsch
      cases hgives 0 _ rfl
      cases hgives 1 _ rfl
      obtain rfl : e = .failed call.command.text "exit status: 1" "locked" :=
        (Except.error.inj (hgives 2 _ rfl)).symm
      have hrecords : seedRecords defaultSchemes ["Secret seed: 0xa", "no seed"] =
          [⟨.sr25519, "Secret seed: 0xa".toList⟩] := by decide +kernel
      exact ⟨hrun, hcalls, hrecords ▸ hread⟩
  · cases hgives 2 _ rfl

end ValidatorKeys
