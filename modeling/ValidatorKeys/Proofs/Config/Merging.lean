import ValidatorKeys.Proofs.Config.Priority

/-!
# Merging settings

Each setting is merged by itself and by one rule: the upper value stands unless it is the default.
So layers may be merged in any grouping, the default settings add nothing to the settings below
them, and settings over themselves stay as they are.

    (a.merge b).merge c = a.merge (b.merge c)
    a.merge {} = a              a.merge a = a
    ({} : Config).merge a       the same as a

Over the default settings a key file that is only another spelling of the default is lost, so what
comes out is the same but need not be equal: paths are compared by their parts.
-/

namespace ValidatorKeys.Config

/-! ## Definitions -/

namespace Setting

/-- Whether two values of a setting are the same; paths are when their parts are. -/
def Same : (s : Setting) → s.Value → s.Value → Prop
  | .keyFile, p, q => Path.parts p = Path.parts q
  | .workingDir, p, q => Option.map Path.parts p = Option.map Path.parts q
  | _, a, b => a = b

/-- The value of the upper layer unless it is the default, else that of the lower layer. -/
def overlay (s : Setting) (lower upper : s.Value) : s.Value :=
  if s.isDefault upper then lower else upper

end Setting

def Same (a b : Config) : Prop := ∀ s : Setting, s.Same (s.get a) (s.get b)

/-! ## One setting -/

namespace Setting

variable (s : Setting)

theorem same_refl (a : s.Value) : s.Same a a := by
  cases s <;> rfl

/-- A value that counts as the default is the same as the default. -/
theorem same_of_isDefault {a : s.Value} (h : s.isDefault a = true) : s.Same s.default a := by
  cases s with
  | keyFile => exact (eq_of_beq h).symm
  | workingDir => rw [show a = Setting.workingDir.default from of_decide_eq_true h]; rfl
  | _ => exact (of_decide_eq_true h).symm

/-- In every grouping the topmost value that is not the default stands. -/
theorem overlay_assoc (a b c : s.Value) :
    s.overlay (s.overlay a b) c = s.overlay a (s.overlay b c) := by
  unfold overlay
  by_cases hc : s.isDefault c = true
  · rw [if_pos hc, if_pos hc]
  · rw [if_neg hc, if_neg hc, if_neg hc]

theorem overlay_default (a : s.Value) : s.overlay a s.default = a := by
  rw [overlay, if_pos s.isDefault_default]

theorem default_overlay (a : s.Value) : s.Same (s.overlay s.default a) a := by
  unfold overlay
  by_cases h : s.isDefault a = true
  · rw [if_pos h]
    exact s.same_of_isDefault h
  · rw [if_neg h]
    exact s.same_refl a

theorem overlay_self (a : s.Value) : s.overlay a a = a := ite_self a

end Setting

/-! ## All settings -/

/-- Settings are equal when each of the ten is. -/
theorem ext_get {a b : Config} (h : ∀ s : Setting, s.get a = s.get b) : a = b := by
  obtain ⟨⟨binary, build, dir, timeout⟩, ⟨file, schemes, bindings, rounds, policy⟩, ⟨tools⟩⟩ := a
  obtain rfl : binary = b.node.binary := h .binary
  obtain rfl : build = b.node.buildCommand := h .buildCommand
  obtain rfl : dir = b.node.workingDir := h .workingDir
  obtain rfl : timeout = b.node.timeoutSeconds := h .timeout
  obtain rfl : file = b.keys.file := h .keyFile
  obtain rfl : schemes = b.keys.schemes := h .schemes
  obtain rfl : bindings = b.keys.bindings := h .bindings
  obtain rfl : rounds = b.keys.rounds := h .rounds
  obtain rfl : policy = b.keys.conflictPolicy := h .conflictPolicy
  obtain rfl : tools = b.tools.required := h .requiredTools
  rfl

theorem get_merge_eq_overlay (s : Setting) (lower upper : Config) :
    s.get (lower.merge upper) = s.overlay (s.get lower) (s.get upper) :=
  s.get_merge lower upper

theorem merge_assoc (a b c : Config) : (a.merge b).merge c = a.merge (b.merge c) := by
  refine ext_get fun s => ?_
  simp only [get_merge_eq_overlay]
  exact s.overlay_assoc _ _ _

theorem merge_default (a : Config) : a.merge {} = a := by
  refine ext_get fun s => ?_
  rw [get_merge_eq_overlay]
  exact s.overlay_default _

theorem default_merge (a : Config) : Same (({} : Config).merge a) a := by
  intro s
  rw [get_merge_eq_overlay]
  exact s.default_overlay _

theorem merge_self (a : Config) : a.merge a = a := by
  refine ext_get fun s => ?_
  rw [get_merge_eq_overlay]
  exact s.overlay_self _

/-! ## Top theorem -/

/-- **Merging settings is a monoid** with the default settings as its unit, in which every element
is idempotent.  Three of the laws are equations between the settings as they are written. -/
theorem merge_monoid (a b c : Config) :
    (a.merge b).merge c = a.merge (b.merge c) ∧
      a.merge {} = a ∧ Same (({} : Config).merge a) a ∧ a.merge a = a :=
  ⟨merge_assoc a b c, merge_default a, default_merge a, merge_self a⟩

/-- Over the default settings another spelling of the default path is lost. -/
example :
    ({} : Config).merge { keys := { file := "keys.txt/" } } = {} ∧
      Path.parts "keys.txt/" = Path.parts "keys.txt" :=
  ⟨by decide +kernel, by decide +kernel⟩

end ValidatorKeys.Config
