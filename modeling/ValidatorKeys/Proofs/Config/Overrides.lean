import ValidatorKeys.CommandLine.Invocation
import ValidatorKeys.Proofs.Config.Priority
import ValidatorKeys.Proofs.Text.Numbers

/-!
# Options over variables over files

Five settings have an option of a whole run, and three of these a variable too.  An option that is
given decides; else a variable that sets the setting; else the files do.  A variable sets a text
when it holds more than blanks, and the rounds when it spells a number below `2 ^ 64`.

    s.get (o.apply (applyVariables e c).1) = v  ↔  Decided o e c s v

A setting without an option and a variable is decided by the files alone.
-/

namespace ValidatorKeys

/-! ## Definitions -/

namespace Environment

/-- Whether a variable has this value, which is not blank. -/
def HoldsText (e : Environment) (name value : String) : Prop :=
  e.get? name = some value ∧ ∃ c ∈ value.toList, Text.isBlank c = false

/-- Whether a variable spells this number, which has 64 bits. -/
def HoldsNumber (e : Environment) (name : String) (n : Nat) : Prop :=
  ∃ text, e.get? name = some text ∧ Text.Spells text.toList n ∧ n < 2 ^ 64

end Environment

namespace Config

namespace Setting

/-- The value that an option gives. -/
def fromOption? : (s : Setting) → ProvisionOptions → Option s.Value
  | .binary, o => o.run.nodeBinary
  | .timeout, o => o.run.timeout.map some
  | .keyFile, o => o.run.keyFile
  | .rounds, o => o.rounds
  | .conflictPolicy, o => o.run.conflictPolicy
  | _, _ => none

/-- Whether a variable sets a setting to a value: a text as it stands there, or a number. -/
def SetByVariable (e : Environment) : (s : Setting) → s.Value → Prop
  | .binary, v => e.HoldsText "KEYFORGE_NODE_BINARY" v
  | .keyFile, v => e.HoldsText "KEYFORGE_KEY_FILE" v
  | .rounds, n => e.HoldsNumber "KEYFORGE_ROUNDS" n
  | _, _ => False

/-- The value that is read from a variable. -/
def fromVariable? : (s : Setting) → Environment → Option s.Value
  | .binary, e => e.nonBlank? "KEYFORGE_NODE_BINARY"
  | .keyFile, e => e.nonBlank? "KEYFORGE_KEY_FILE"
  | .rounds, e => (e.nonBlank? "KEYFORGE_ROUNDS").bind fun v => Text.word? (Text.trim v.toList)
  | _, _ => none

end Setting

/-- The value of a setting, by the first of option, variable and files that decides it. -/
inductive Decided (o : ProvisionOptions) (e : Environment) (c : Config) (s : Setting) :
    s.Value → Prop
  | byOption {v : s.Value} : s.fromOption? o = some v → Decided o e c s v
  | byVariable {v : s.Value} : s.fromOption? o = none → s.SetByVariable e v → Decided o e c s v
  | byFiles : s.fromOption? o = none → (∀ v, ¬s.SetByVariable e v) → Decided o e c s (s.get c)

end Config

/-! ## Variables -/

namespace Environment

variable {e : Environment} {name : String}

theorem nonBlank?_eq_some_iff {value : String} :
    e.nonBlank? name = some value ↔ e.HoldsText name value := by
  rw [nonBlank?, Option.filter_eq_some_iff, HoldsText, Text.allBlank]
  simp

/-- What spells a number is not blank, so that a blank variable need not be told apart. -/
theorem bind_nonBlank?_eq_some_iff {n : Nat} :
    ((e.nonBlank? name).bind fun v => Text.word? (Text.trim v.toList)) = some n ↔
      e.HoldsNumber name n := by
  rw [Option.bind_eq_some_iff]
  refine exists_congr fun text => ?_
  rw [nonBlank?_eq_some_iff, HoldsText, Text.word?_trim_eq_some_iff]
  constructor
  · rintro ⟨⟨hget, -⟩, hspells⟩
    exact ⟨hget, hspells⟩
  · rintro ⟨hget, hspells⟩
    exact ⟨⟨hget, hspells.1.exists_not_blank⟩, hspells⟩

end Environment

namespace Config

namespace Setting

variable (s : Setting)

theorem fromVariable?_eq_some_iff {e : Environment} {v : s.Value} :
    s.fromVariable? e = some v ↔ s.SetByVariable e v := by
  cases s with
  | binary => exact Environment.nonBlank?_eq_some_iff
  | keyFile => exact Environment.nonBlank?_eq_some_iff
  | rounds => exact Environment.bind_nonBlank?_eq_some_iff
  | _ => exact iff_of_false (fun h => by cases h) id

theorem fromVariable?_eq_none_iff {e : Environment} :
    s.fromVariable? e = none ↔ ∀ v, ¬s.SetByVariable e v := by
  rw [Option.eq_none_iff_forall_ne_some]
  exact forall_congr' fun v => not_congr s.fromVariable?_eq_some_iff

theorem applyVariables_eq (e : Environment) (c : Config) : (applyVariables e c).1 = {
    node := { c.node with
      binary := (e.nonBlank? "KEYFORGE_NODE_BINARY").getD c.node.binary }
    keys := { c.keys with
      file := (e.nonBlank? "KEYFORGE_KEY_FILE").getD c.keys.file
      rounds := ((e.nonBlank? "KEYFORGE_ROUNDS").bind fun v =>
        Text.word? (Text.trim v.toList)).getD c.keys.rounds }
    tools := c.tools } := by
  unfold applyVariables
  cases e.nonBlank? "KEYFORGE_ROUNDS" with
  | none =>
    cases e.nonBlank? "KEYFORGE_NODE_BINARY" <;> cases e.nonBlank? "KEYFORGE_KEY_FILE" <;> rfl
  | some v =>
    dsimp only [Option.bind_some]
    cases Text.word? (Text.trim v.toList) <;>
      cases e.nonBlank? "KEYFORGE_NODE_BINARY" <;> cases e.nonBlank? "KEYFORGE_KEY_FILE" <;> rfl

theorem get_applyVariables (e : Environment) (c : Config) :
    s.get (applyVariables e c).1 = (s.fromVariable? e).getD (s.get c) := by
  rw [applyVariables_eq]
  cases s <;> rfl

/-! ## Options -/

theorem get_apply (o : ProvisionOptions) (c : Config) :
    s.get (o.apply c) = (s.fromOption? o).getD (s.get c) := by
  cases s with
  | timeout =>
    change o.run.timeout.or c.node.timeoutSeconds =
      (o.run.timeout.map some).getD c.node.timeoutSeconds
    cases o.run.timeout <;> rfl
  | _ => rfl

end Setting

/-! ## Top theorem -/

/-- **Options override variables, variables override files, and nothing else moves.**  Each of the
ten settings has the one value that the first of the three gives it. -/
theorem get_apply_eq_iff_decided (o : ProvisionOptions) (e : Environment) (c : Config)
    (s : Setting) (v : s.Value) :
    s.get (o.apply (applyVariables e c).1) = v ↔ Decided o e c s v := by
  rw [s.get_apply, s.get_applyVariables]
  constructor
  · rintro rfl
    cases ho : s.fromOption? o with
    | some w => exact .byOption ho
    | none =>
      cases hv : s.fromVariable? e with
      | some w => exact .byVariable ho (s.fromVariable?_eq_some_iff.mp hv)
      | none => exact .byFiles ho (s.fromVariable?_eq_none_iff.mp hv)
  · intro h
    cases h with
    | byOption ho =>
      rw [ho]
      rfl
    | byVariable ho hv =>
      rw [ho, s.fromVariable?_eq_some_iff.mpr hv]
      rfl
    | byFiles ho hnone =>
      rw [ho, s.fromVariable?_eq_none_iff.mpr hnone]
      rfl

end Config

end ValidatorKeys
