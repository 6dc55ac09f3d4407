import ValidatorKeys.Proofs.Json.Unambiguous
import ValidatorKeys.Report.Json

/-!
# The JSON form of a report determines the report

Each part of a report can be told from its JSON value: a scheme from its name, a key type from its
label, a pass that a round does not hold from its missing field, and a fingerprint that is not known
from `null`, which is no string.  The text determines the value, so two reports with one text are
one report.

    r₁.jsonText = r₂.jsonText  ↔  r₁ = r₂
-/

namespace ValidatorKeys

/-! ## Labels -/

theorem Scheme.eq_of_name {s t : Scheme} (h : s.name = t.name) : s = t := by
  cases s <;> cases t <;> first | rfl | exact absurd h (by decide)

theorem KeyType.eq_of_label {k l : KeyType} (h : k.label = l.label) : k = l := by
  obtain ⟨_, _⟩ := k
  obtain ⟨_, _⟩ := l
  cases h
  rfl

theorem Binding.eq_of_json {a b : Binding} (h : a.json = b.json) : a = b := by
  obtain ⟨s, k⟩ := a
  obtain ⟨t, l⟩ := b
  simp only [Binding.json, Json.object.injEq, List.cons.injEq, Prod.mk.injEq, true_and,
    Json.string.injEq, and_true] at h
  obtain ⟨hlabel, hname⟩ := h
  rw [KeyType.eq_of_label hlabel, Scheme.eq_of_name hname]

/-! ## Passes -/

theorem GeneratedKey.eq_of_json {k l : GeneratedKey} (h : k.json = l.json) : k = l := by
  obtain ⟨s, f⟩ := k
  obtain ⟨t, g⟩ := l
  simp only [GeneratedKey.json, Json.object.injEq, List.cons.injEq, Prod.mk.injEq, true_and,
    Json.string.injEq, and_true] at h
  obtain ⟨hfingerprint, hname⟩ := h
  obtain rfl := Scheme.eq_of_name hname
  cases f <;> cases g <;> simp_all

theorem GenerateReport.eq_of_json {g h : GenerateReport} (heq : g.json = h.json) : g = h := by
  obtain ⟨keys, schemes⟩ := g
  obtain ⟨keys', schemes'⟩ := h
  simp only [GenerateReport.json, Json.object.injEq, List.cons.injEq, Prod.mk.injEq, true_and,
    Json.array.injEq, and_true] at heq
  obtain ⟨hkeys, hschemes⟩ := heq
  have hname : ∀ s t : Scheme, Json.string s.name = Json.string t.name → s = t := by
    intro s t h
    exact Scheme.eq_of_name (Json.string.inj h)
  rw [(List.map_inj_right fun _ _ => GeneratedKey.eq_of_json).mp hkeys,
    (List.map_inj_right hname).mp hschemes]

theorem InsertedKey.eq_of_json {k l : InsertedKey} (h : k.json = l.json) : k = l := by
  obtain ⟨s, a, f⟩ := k
  obtain ⟨t, b, g⟩ := l
  simp only [InsertedKey.json, Json.object.injEq, List.cons.injEq, Prod.mk.injEq, true_and,
    Json.string.injEq, and_true] at h
  obtain ⟨hfingerprint, hlabel, hname⟩ := h
  rw [hfingerprint, KeyType.eq_of_label hlabel, Scheme.eq_of_name hname]

theorem InsertReport.eq_of_json {i j : InsertReport} (h : i.json = j.json) : i = j := by
  obtain ⟨keys, bindings⟩ := i
  obtain ⟨keys', bindings'⟩ := j
  simp only [InsertReport.json, Json.object.injEq, List.cons.injEq, Prod.mk.injEq, true_and,
    Json.array.injEq, and_true] at h
  obtain ⟨hkeys, hbindings⟩ := h
  rw [(List.map_inj_right fun _ _ => InsertedKey.eq_of_json).mp hkeys,
    (List.map_inj_right fun _ _ => Binding.eq_of_json).mp hbindings]

/-! ## Reports -/

/-- The fields of a round tell which passes it holds. -/
theorem RoundReport.eq_of_json {r s : RoundReport} (h : r.json = s.json) : r = s := by
  obtain ⟨n, g, i⟩ := r
  obtain ⟨m, g', i'⟩ := s
  cases g <;> cases i <;> cases g' <;> cases i' <;> simp [RoundReport.json] at h
  · obtain rfl := h
    rfl
  · obtain ⟨hi, rfl⟩ := h
    rw [InsertReport.eq_of_json hi]
  · obtain ⟨hg, rfl⟩ := h
    rw [GenerateReport.eq_of_json hg]
  · obtain ⟨hg, hi, rfl⟩ := h
    rw [GenerateReport.eq_of_json hg, InsertReport.eq_of_json hi]

theorem Report.eq_of_json {r₁ r₂ : Report} (h : r₁.json = r₂.json) : r₁ = r₂ := by
  obtain ⟨built, rounds⟩ := r₁
  obtain ⟨built', rounds'⟩ := r₂
  simp only [Report.json, Json.object.injEq, List.cons.injEq, Prod.mk.injEq, true_and,
    Json.bool.injEq, Json.array.injEq, and_true] at h
  obtain ⟨hbuilt, hrounds⟩ := h
  rw [hbuilt, (List.map_inj_right fun _ _ => RoundReport.eq_of_json).mp hrounds]

/-! ## Top theorem -/

/-- **The JSON text of a report loses nothing**: reports with one text are one report. -/
theorem Report.jsonText_eq_iff (r₁ r₂ : Report) : r₁.jsonText = r₂.jsonText ↔ r₁ = r₂ := by
  refine ⟨fun h => ?_, congrArg Report.jsonText⟩
  have hvalue : r₁.jsonWithSummary = r₂.jsonWithSummary := Json.pretty_inj h
  simp only [Report.jsonWithSummary, Json.object.injEq, List.cons.injEq, Prod.mk.injEq,
    true_and] at hvalue
  exact Report.eq_of_json hvalue.1

end ValidatorKeys
