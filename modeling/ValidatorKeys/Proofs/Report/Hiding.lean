import ValidatorKeys.Proofs.Json.Strings
import ValidatorKeys.Proofs.Report.Fingerprints
import ValidatorKeys.Proofs.Text.Styled

/-!
# Printed reports hide keys

Of all that a report is made of, only a key type may hold an `x`: its label may be `0xab` or end in
`0x`.  A label is short, and in each form of the report a character that is no hex digit follows it:
a blank, a code or a quote.  So no form shows a long number, however the pieces meet, and redaction
would find nothing to hide.

    r.Fingerprinted → text ∈ r.forms → ¬ShowsLongNumber text
-/

namespace ValidatorKeys

open Text (Interrupted ShowsLongNumber interrupted_of_not_mem interrupted_nil interrupted_flatMap
  interrupted_paint_short not_mem_paint paint redactString)

/-! ## Definitions -/

/-- The forms in which a report is printed. -/
def Report.forms (r : Report) : List String :=
  [r.terminalText false, r.terminalText true, r.jsonText]

def Report.fieldNames : List String :=
  ["built", "fingerprint", "generate", "generated", "insert", "inserted", "key_type", "report",
    "round", "rounds", "scheme", "skipped", "summary"]

/-- The strings in the JSON form of a report. -/
inductive Report.Word : String → Prop where
  | field {name : String} : name ∈ Report.fieldNames → Report.Word name
  | scheme (s : Scheme) : Report.Word s.name
  | keyType (k : KeyType) : Report.Word k.label
  | fingerprint {f : String} : IsFingerprint f → Report.Word f

/-! ## Pieces -/

theorem Digest.Sha256.hexDigit_ne : ∀ n < 16, hexDigit n ≠ 'x' := by decide

theorem Digest.Sha256.not_mem_hexDigest (m : List UInt8) : 'x' ∉ hexDigest m := by
  intro hx
  obtain ⟨b, -, hx⟩ := List.mem_flatMap.mp hx
  have hb := b.toNat_lt
  rcases List.mem_cons.mp hx with hx | hx
  · exact hexDigit_ne _ (by omega) hx.symm
  · exact hexDigit_ne _ (by omega) (List.mem_singleton.mp hx).symm

theorem IsFingerprint.not_mem {f : String} (h : IsFingerprint f) : 'x' ∉ f.toList := by
  obtain ⟨t, rfl⟩ := h
  rw [Token.fingerprint, String.toList_ofList]
  exact fun hx => Digest.Sha256.not_mem_hexDigest _ (List.mem_of_mem_take hx)

@[simp] theorem Scheme.not_mem_name (s : Scheme) {c : Char} (hc : c ∉ "acders1259".toList) :
    c ∉ s.name.toList := by
  have hname : s.name.toList.all ("acders1259".toList.contains ·) = true := by cases s <;> decide
  exact fun h => hc (List.contains_iff_mem.mp (List.all_eq_true.mp hname c h))

namespace KeyType

variable (k : KeyType)

theorem length_label : k.label.toList.length = 4 := by
  have h := k.valid
  rw [isKeyLabel, Bool.and_eq_true, beq_iff_eq] at h
  exact h.1

theorem label_alphanum : k.label.toList.all Char.isAlphanum = true := by
  have h := k.valid
  rw [isKeyLabel, Bool.and_eq_true] at h
  exact h.2

@[simp] theorem not_mem_label {c : Char} (hc : c.isAlphanum = false) : c ∉ k.label.toList := by
  intro h
  rw [List.all_eq_true.mp k.label_alphanum c h] at hc
  cases hc

end KeyType

/-! ## Terminal -/

namespace GenerateReport

variable {r : GenerateReport} (h : ∀ f ∈ r.fingerprints, IsFingerprint f)

include h

theorem interrupted_terminalLines (colours : Bool) :
    ∀ line ∈ r.terminalLines colours, Interrupted line.toList := by
  intro line hline
  refine interrupted_of_not_mem ?_
  rcases List.mem_append.mp hline with hline | hline
  · obtain ⟨k, hk, rfl⟩ := List.mem_map.mp hline
    have hfingerprint : 'x' ∉ (k.fingerprint.getD "(no token)").toList := by
      cases hf : k.fingerprint with
      | none => decide
      | some f => exact (h f (List.mem_filterMap.mpr ⟨k, hk, hf⟩)).not_mem
    simp [hfingerprint]
  · obtain ⟨s, -, rfl⟩ := List.mem_map.mp hline
    simp

end GenerateReport

/-- A key type in a line without any other `x`, with a blank behind it. -/
theorem KeyType.interrupted_line (colours : Bool) (k : KeyType) {front back : List Char}
    (hfront : 'x' ∉ front) (hback : 'x' ∉ back) (hblank : back.head? = some ' ') :
    Interrupted (front ++ ((paint colours .strong k.label).toList ++ back)) := by
  obtain ⟨rest, rfl⟩ := List.head?_eq_some_iff.mp hblank
  refine (interrupted_of_not_mem hfront).append ?_
  exact interrupted_paint_short _ _ (by rw [k.length_label]; decide) (k.not_mem_label (by decide))
    (by decide) (interrupted_of_not_mem hback)

namespace InsertReport

variable {r : InsertReport} (h : ∀ f ∈ r.fingerprints, IsFingerprint f)

include h

theorem interrupted_terminalLines (colours : Bool) :
    ∀ line ∈ r.terminalLines colours, Interrupted line.toList := by
  intro line hline
  rcases List.mem_append.mp hline with hline | hline
  · obtain ⟨k, hk, rfl⟩ := List.mem_map.mp hline
    have hfingerprint : 'x' ∉ k.fingerprint.toList :=
      (h _ (List.mem_map.mpr ⟨k, hk, rfl⟩)).not_mem
    have hfront : 'x' ∉ ("   " ++ paint colours (.coloured .cyan) "→" ++ " ").toList := by simp
    have hback : 'x' ∉ (" ← " ++ k.scheme.name ++ " " ++
        paint colours .faint k.fingerprint).toList := by
      simp [hfingerprint]
    have hline := k.keyType.interrupted_line colours hfront hback
      (by simp only [String.toList_append, List.append_assoc]; rfl)
    simpa only [String.toList_append, List.append_assoc] using hline
  · obtain ⟨b, -, rfl⟩ := List.mem_map.mp hline
    have hfront : 'x' ∉ ("   " ++ paint colours (.strongIn .yellow) "⚠" ++ " ").toList := by simp
    have hback : 'x' ∉ (" has no unused " ++ b.scheme.name ++ " key").toList := by simp
    have hline := b.keyType.interrupted_line colours hfront hback
      (by simp only [String.toList_append, List.append_assoc]; rfl)
    simpa only [String.toList_append, List.append_assoc] using hline

end InsertReport

theorem RoundReport.interrupted_terminalLines {r : RoundReport}
    (h : ∀ f ∈ r.fingerprints, IsFingerprint f) (colours : Bool) :
    ∀ line ∈ r.terminalLines colours, Interrupted line.toList := by
  obtain ⟨round, generate, insert⟩ := r
  simp only [RoundReport.fingerprints, List.forall_mem_append] at h
  have htitle : 'x' ∉ (" " ++ paint colours .strong ("Round " ++ round.repr)).toList := by simp
  simp only [RoundReport.terminalLines, List.forall_mem_append, List.forall_mem_cons,
    String.toList_append]
  refine ⟨⟨⟨interrupted_nil, ?_, List.forall_mem_nil _⟩, ?_⟩, ?_⟩
  · rw [← String.toList_append]
    exact interrupted_of_not_mem htitle
  · cases generate with
    | none => exact List.forall_mem_nil _
    | some g => exact g.interrupted_terminalLines h.1 colours
  · cases insert with
    | none => exact List.forall_mem_nil _
    | some i => exact i.interrupted_terminalLines h.2 colours

namespace Report

variable {r : Report}

theorem interrupted_totalsLine (colours : Bool) (r : Report) :
    Interrupted (r.totalsLine colours).toList :=
  interrupted_of_not_mem (by simp [totalsLine])

@[simp] theorem not_mem_reportRule {c : Char} (hc : c ≠ '─') : c ∉ reportRule.toList := by
  unfold reportRule
  rw [String.toList_ofList]
  exact fun h => hc (List.eq_of_mem_replicate h)

theorem Fingerprinted.interrupted_terminalLines (h : r.Fingerprinted) (colours : Bool) :
    ∀ line ∈ r.terminalLines colours, Interrupted line.toList := by
  simp only [terminalLines, List.forall_mem_append, List.forall_mem_cons]
  refine ⟨⟨?_, ?_⟩, ?_, r.interrupted_totalsLine colours, List.forall_mem_nil _⟩
  · split
    · rw [List.forall_mem_singleton]
      exact interrupted_of_not_mem (by simp)
    · exact List.forall_mem_nil _
  · intro line hline
    obtain ⟨round, hround, hline⟩ := List.mem_flatMap.mp hline
    exact round.interrupted_terminalLines
      (fun f hf => h f (List.mem_flatMap.mpr ⟨round, hround, hf⟩)) colours line hline
  · exact interrupted_of_not_mem (by simp)

theorem Fingerprinted.interrupted_terminalText (h : r.Fingerprinted) (colours : Bool) :
    Interrupted (r.terminalText colours).toList := by
  rw [terminalText, String.toList_join, List.flatMap_map]
  refine interrupted_flatMap fun line hline => ?_
  rw [String.toList_append]
  exact (h.interrupted_terminalLines colours line hline).append (interrupted_of_not_mem (by decide))

end Report

/-! ## JSON -/

theorem Report.Word.interrupted_quoted {s : String} (h : Report.Word s) :
    Interrupted (Json.quoted s) := by
  cases h with
  | field hname =>
    have hplain : ∀ name ∈ Report.fieldNames, 'x' ∉ name.toList := by decide
    exact interrupted_of_not_mem (Json.not_mem_quoted (hplain s hname))
  | scheme s => exact interrupted_of_not_mem (Json.not_mem_quoted (s.not_mem_name (by decide)))
  | keyType k =>
    exact Json.interrupted_quoted_short (by rw [k.length_label]; decide) k.label_alphanum
  | fingerprint hf => exact interrupted_of_not_mem (Json.not_mem_quoted hf.not_mem)

attribute [simp] Report.Word.field Report.Word.scheme Report.Word.keyType

theorem Binding.words (b : Binding) : ∀ s ∈ b.json.strings, Report.Word s := by
  simp (disch := decide) [Binding.json]

theorem GenerateReport.words {r : GenerateReport} (h : ∀ f ∈ r.fingerprints, IsFingerprint f) :
    ∀ s ∈ r.json.strings, Report.Word s := by
  have hkeys : ∀ k ∈ r.generated, ∀ s ∈ k.json.strings, Report.Word s := by
    intro k hk
    cases hf : k.fingerprint with
    | none => simp (disch := decide) [GeneratedKey.json, hf]
    | some f =>
      have hword : Report.Word f := .fingerprint (h f (List.mem_filterMap.mpr ⟨k, hk, hf⟩))
      simp (disch := decide) [GeneratedKey.json, hf, hword]
  simpa (disch := decide) [GenerateReport.json] using hkeys

theorem InsertReport.words {r : InsertReport} (h : ∀ f ∈ r.fingerprints, IsFingerprint f) :
    ∀ s ∈ r.json.strings, Report.Word s := by
  have hkeys : ∀ k ∈ r.inserted, ∀ s ∈ k.json.strings, Report.Word s := by
    intro k hk
    have hword : Report.Word k.fingerprint :=
      .fingerprint (h _ (List.mem_map.mpr ⟨k, hk, rfl⟩))
    simp (disch := decide) [InsertedKey.json, hword]
  have hskipped : ∀ b ∈ r.skipped, ∀ s ∈ b.json.strings, Report.Word s := fun b _ => b.words
  simpa (disch := decide) [InsertReport.json] using And.intro hkeys hskipped

theorem RoundReport.words {r : RoundReport} (h : ∀ f ∈ r.fingerprints, IsFingerprint f) :
    ∀ s ∈ r.json.strings, Report.Word s := by
  obtain ⟨round, generate, insert⟩ := r
  simp only [RoundReport.fingerprints, List.forall_mem_append] at h
  simp only [RoundReport.json, Json.forall_strings_object, List.forall_mem_append]
  refine ⟨⟨?_, ?_⟩, by simp (disch := decide)⟩
  · cases generate with
    | none => exact List.forall_mem_nil _
    | some g => simpa (disch := decide) using g.words h.1
  · cases insert with
    | none => exact List.forall_mem_nil _
    | some i => simpa (disch := decide) using i.words h.2

/-- **The JSON form names schemes, key types and fingerprints**, beside its own fields. -/
theorem Report.Fingerprinted.words {r : Report} (h : r.Fingerprinted) :
    ∀ s ∈ r.jsonWithSummary.strings, Report.Word s := by
  have hrounds : ∀ x ∈ r.rounds, ∀ s ∈ x.json.strings, Report.Word s := fun x hx =>
    x.words fun f hf => h f (List.mem_flatMap.mpr ⟨x, hx, hf⟩)
  -- the summary holds numbers, and no strings beside their names
  simpa (disch := decide) [Report.jsonWithSummary, Report.json] using hrounds

theorem Report.Fingerprinted.interrupted_jsonText {r : Report} (h : r.Fingerprinted) :
    Interrupted r.jsonText.toList := by
  rw [Report.jsonText, Json.pretty, String.toList_ofList]
  exact Json.interrupted_render 0 _ fun s hs => (h.words s hs).interrupted_quoted

/-! ## Top theorem -/

/-- **Printed reports hide keys.**  No form of a fingerprinted report shows a long number, so
redaction leaves it alone; and every report that a tool ends with is fingerprinted, whatever its
options, its files and the answers to its commands. -/
theorem report_forms_hide_keys :
    (∀ r : Report, r.Fingerprinted → ∀ text ∈ r.forms,
      ¬ShowsLongNumber text ∧ redactString text = text) ∧
    ∀ {σ : Type} (t : Tool σ) (r : Report), t.Reports r → r.Fingerprinted := by
  refine ⟨fun r h text htext => ?_, fun t r h => h.fingerprinted⟩
  have hinterrupted : Interrupted text.toList := by
    simp only [Report.forms, List.mem_cons, List.not_mem_nil, or_false] at htext
    rcases htext with rfl | rfl | rfl
    · exact h.interrupted_terminalText false
    · exact h.interrupted_terminalText true
    · exact h.interrupted_jsonText
  have hshows := hinterrupted.not_showsLongNumber
  exact ⟨hshows, (Text.redactString_eq_self_iff text).mpr hshows⟩

/-- A report whose key types hold an `x`, and an insertion from a key file with a long number. -/
theorem report_forms_hide_keys_insertion :
    let token : Token := ⟨"0x9d61b19deffd5a60ba844af492ec2cc4".toList, by decide⟩
    let report : Report := {
      built := true
      rounds := [⟨1, some ⟨[⟨.sr25519, some token.fingerprint⟩], [.ecdsa]⟩,
        some ⟨[⟨.sr25519, ⟨"0xab", by decide⟩, token.fingerprint⟩],
          [⟨.ed25519, ⟨"ab0x", by decide⟩⟩]⟩⟩] }
    let t : Tool Unit := ⟨⟨"/", [("KEYFORGE_PASSWORD", "pw")]⟩, "x86_64-unknown-linux-gnu",
      fun _ => .silent⟩
    let line := "sr25519: Secret seed: 0x9d61b19deffd5a60ba844af492ec2cc4"
    let s : Session Unit := ⟨⟨[(["keys.txt"], .file line.toUTF8 0o600)]⟩, (), [], []⟩
    report.Fingerprinted ∧ ShowsLongNumber line ∧
      (∀ text ∈ report.forms, ¬ShowsLongNumber text ∧ redactString text = text) ∧
      ∃ r s', t.insert {} s = (.ok r, s') ∧ r.Fingerprinted ∧
        ∀ text ∈ r.forms, ¬ShowsLongNumber text := by
  intro token report t line s
  have hreport : report.Fingerprinted := by
    intro f hf
    have htoken : f ∈ [token.fingerprint, token.fingerprint] := hf
    simp only [List.mem_cons, List.not_mem_nil, or_false, or_self] at htoken
    exact ⟨token, htoken.symm⟩
  have hline : ShowsLongNumber line :=
    ⟨"sr25519: Secret seed: ", "9d61b19deffd5a60ba844af492ec2cc4", "", by decide, by decide +kernel⟩
  have hsettings : t.settings s.files {} = .ok ({}, []) := by
    have hglobal : Config.globalPath? t.environment = none := by decide +kernel
    have hproject : s.files.exists? "/" (Path.join "/" Config.projectFile) = false := by
      decide +kernel
    have hvariables : Config.applyVariables t.environment {} = ({}, []) := by decide +kernel
    simp only [Tool.settings, Config.load, Config.loadFiles, hglobal, Config.mergeOptional]
    rw [hproject]
    exact congrArg Except.ok hvariables
  have hthere : s.files.exists? "/" (Config.keyFilePath {} "/") = true := by decide +kernel
  have hvalid : Config.validate {} = .ok [] := by rfl
  have hpassword : Password.resolve s.files t.environment none = .ok ⟨"pw", by decide⟩ := by rfl
  obtain ⟨told, hinsert⟩ := Tool.insert_comes_to_pass (o := {}) hsettings hthere hvalid hpassword
  have hlines : KeyFile.readLines s.files "/" (Config.keyFilePath {} "/") =
      .ok (Text.lines line.toList) := by
    have hread : s.files.readText "/" (Config.keyFilePath {} "/") = .ok line := by
      decide +kernel
    rw [KeyFile.readLines, hread]
  let started : Session Unit := { s with notices := told ++ [.insertionStarted] }
  obtain ⟨s', hpass⟩ := insertionPass_of_alwaysAnswers Runner.silent_alwaysAnswers
    (s := started) hlines (Config.nodeProgram {} "/") .advance ⟨"pw", by decide⟩ defaultBindings
  have hrun : ∃ r s', t.insert {} s = (.ok r, s') := by
    rw [hinsert]
    exact ⟨_, s', Run.bind_ok (Run.mapError_ok (Run.mapError_ok hpass ProvisionError.pass) _)⟩
  obtain ⟨r, s', hrun⟩ := hrun
  have hprinted : r.Fingerprinted := report_forms_hide_keys.2 t r (.insert hrun)
  exact ⟨hreport, hline, report_forms_hide_keys.1 report hreport, r, s', hrun, hprinted,
    fun text htext => (report_forms_hide_keys.1 r hprinted text htext).1⟩

end ValidatorKeys
