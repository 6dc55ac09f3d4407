import ValidatorKeys.Config.Loading
import ValidatorKeys.Proofs.File.Following
import ValidatorKeys.Proofs.Toml.WellFormed

/-!
# Which layer a setting comes from

A file sets a setting when its document has a value for it, in the table of its section or at its
place in the array of the section.  Whatever the files set, the value that is loaded is

    the value of the upper file, unless that is the default
    else the value of the global file, unless that is the default
    else the default

where the upper file is the one that is named explicitly, or else that of the project.  A file that
is named explicitly takes the place of the project's, which is then never looked at.

So no file can set a value back to the default over a lower layer that sets another one.
-/

namespace ValidatorKeys.Config

open Toml (Value)

/-! ## Definitions -/

/-- What a section holds for a key: in a table the value of the key, in an array that at its
position. -/
def itemOf? (key : String) (position : Nat) : Value → Option Value
  | .table fs => Toml.Table.get? fs key
  | .array vs => vs[position]?
  | _ => none

/-- The settings. -/
inductive Setting where
  | binary
  | buildCommand
  | workingDir
  | timeout
  | keyFile
  | schemes
  | bindings
  | rounds
  | conflictPolicy
  | requiredTools
  deriving Repr, DecidableEq

namespace Setting

/-- What a setting is set to; one without a default is set to some value or to none. -/
def Value : Setting → Type
  | .binary => String
  | .buildCommand => List String
  | .workingDir => Option String
  | .timeout => Option Nat
  | .keyFile => String
  | .schemes => List Scheme
  | .bindings => List Binding
  | .rounds => Nat
  | .conflictPolicy => ConflictPolicy
  | .requiredTools => List String

def group : Setting → String
  | .binary | .buildCommand | .workingDir | .timeout => "node"
  | .keyFile | .schemes | .bindings | .rounds | .conflictPolicy => "keys"
  | .requiredTools => "tools"

def key : Setting → String
  | .binary => "binary"
  | .buildCommand => "build_command"
  | .workingDir => "working_dir"
  | .timeout => "command_timeout_secs"
  | .keyFile => "file"
  | .schemes => "schemes"
  | .bindings => "bindings"
  | .rounds => "rounds"
  | .conflictPolicy => "conflict_policy"
  | .requiredTools => "required"

/-- The place of a setting in a section that is written as an array. -/
def position : Setting → Nat
  | .binary | .keyFile | .requiredTools => 0
  | .buildCommand | .schemes => 1
  | .workingDir | .bindings => 2
  | .timeout | .rounds => 3
  | .conflictPolicy => 4

def decode : (s : Setting) → Decoder s.Value
  | .binary => string
  | .buildCommand => list string
  | .workingDir => fun v => (string v).map some
  | .timeout => fun v => (natural v).map some
  | .keyFile => string
  | .schemes => list scheme
  | .bindings => list binding
  | .rounds => natural
  | .conflictPolicy => policy
  | .requiredTools => list string

def get : (s : Setting) → Config → s.Value
  | .binary, c => c.node.binary
  | .buildCommand, c => c.node.buildCommand
  | .workingDir, c => c.node.workingDir
  | .timeout, c => c.node.timeoutSeconds
  | .keyFile, c => c.keys.file
  | .schemes, c => c.keys.schemes
  | .bindings, c => c.keys.bindings
  | .rounds, c => c.keys.rounds
  | .conflictPolicy, c => c.keys.conflictPolicy
  | .requiredTools, c => c.tools.required

def default (s : Setting) : s.Value := s.get {}

instance : (s : Setting) → DecidableEq s.Value
  | .binary => inferInstanceAs (DecidableEq String)
  | .buildCommand => inferInstanceAs (DecidableEq (List String))
  | .workingDir => inferInstanceAs (DecidableEq (Option String))
  | .timeout => inferInstanceAs (DecidableEq (Option Nat))
  | .keyFile => inferInstanceAs (DecidableEq String)
  | .schemes => inferInstanceAs (DecidableEq (List Scheme))
  | .bindings => inferInstanceAs (DecidableEq (List Binding))
  | .rounds => inferInstanceAs (DecidableEq Nat)
  | .conflictPolicy => inferInstanceAs (DecidableEq ConflictPolicy)
  | .requiredTools => inferInstanceAs (DecidableEq (List String))

/-- Whether a value is the built-in one; the key file's paths are compared by their parts. -/
def isDefault : (s : Setting) → s.Value → Bool
  | .keyFile, a => Path.same a ({} : KeySettings).file
  | s, a => decide (a = s.default)

/-- What a document holds for a setting. -/
def item? (s : Setting) (t : Toml.Table) : Option Toml.Value :=
  (t.get? s.group).bind (itemOf? s.key s.position)

/-- The value that a document sets, if it sets one. -/
def given? (s : Setting) (t : Toml.Table) : Option s.Value :=
  (s.item? t).bind fun v => (s.decode v).toOption

/-- The value that a document sets over the layers below; the default does not count. -/
def override? (s : Setting) (t : Toml.Table) : Option s.Value :=
  (s.given? t).filter fun a => !s.isDefault a

/-- The value that the upper document sets, else the one that the global document sets, else the
default. -/
def chosen (s : Setting) (global upper : Toml.Table) : s.Value :=
  ((s.override? upper).or (s.override? global)).getD s.default

end Setting

/-- The document in the file at a path, if its settings can be loaded. -/
def document? (t : FileTree) (cwd path : String) : Option Toml.Table :=
  match t.readText cwd path with
  | .ok text => (Toml.parse? text.toList).filter fun table => (ofTable table).isOk
  | .error _ => none

/-- The document of a layer that may be absent; an absent one sets nothing. -/
inductive IsLayer (t : FileTree) (cwd : String) : Option String → Toml.Table → Prop
  | unnamed : IsLayer t cwd none []
  | absent {path : String} : t.exists? cwd path = false → IsLayer t cwd (some path) []
  | present {path : String} {table : Toml.Table} : document? t cwd path = some table →
      IsLayer t cwd (some path) table

/-- The document of the layer over the global one. -/
def IsUpperLayer (t : FileTree) (cwd : String) (explicit projectDir : Option String)
    (table : Toml.Table) : Prop :=
  match explicit with
  | some path => document? t cwd path = some table
  | none => IsLayer t cwd (projectDir.map fun dir => Path.join dir projectFile) table

/-! ## Filling a section -/

/-- A field that never changes what `get` sees. -/
def Field.Keeps {α β : Type} (f : Field α) (get : α → β) : Prop :=
  ∀ a v a', f.set a v = .ok a' → get a' = get a

/-- What `get` sees is filled by the field of a key, at a position, and by no other field. -/
structure Fills {α β : Type} (key : String) (position : Nat) (decode : Decoder β) (get : α → β)
    (fields : List (Field α)) : Prop where
  nodup : (fields.map Field.key).Nodup
  position : (fields[position]?).map Field.key = some key
  fill : ∀ f ∈ fields, f.key = key → ∀ a v a', f.set a v = .ok a' → decode v = .ok (get a')
  keep : ∀ f ∈ fields, f.key ≠ key → f.Keeps get

/-- The value that an item is read as, or the one before where there is no item. -/
def Taken {β : Type} (decode : Decoder β) (before after : β) : Option Value → Prop
  | some v => decode v = .ok after
  | none => after = before

theorem field_set_ok {α γ : Type} {key : String} {decode : Decoder γ} {put : α → γ → α} {a a' : α}
    {v : Value} (h : (field key decode put).set a v = .ok a') :
    ∃ c, decode v = .ok c ∧ put a c = a' := by
  change (decode v).map (put a) = .ok a' at h
  cases hv : decode v with
  | error p =>
    rw [hv] at h
    cases h
  | ok c =>
    rw [hv] at h
    cases h
    exact ⟨c, rfl, rfl⟩

@[simp] theorem field_keeps {α β γ : Type} {get : α → β} {key : String} {decode : Decoder γ}
    {put : α → γ → α} (h : ∀ a c, get (put a c) = get a) : (field key decode put).Keeps get := by
  intro a v a' hset
  obtain ⟨c, -, rfl⟩ := field_set_ok hset
  exact h a c

section

variable {α β : Type} {fields : List (Field α)} {key : String} {position : Nat}
  {decode : Decoder β} {get : α → β}

theorem Fills.of_field {γ : Type} {decode' : Decoder γ} {put : α → γ → α}
    (hnodup : (fields.map Field.key).Nodup)
    (hposition : fields[position]? = some (field key decode' put))
    (hput : ∀ a v c, decode' v = .ok c → decode v = .ok (get (put a c)))
    (hkeep : ∀ f ∈ fields.eraseIdx position, f.Keeps get) :
    Fills key position decode get fields := by
  refine ⟨hnodup, by rw [hposition]; rfl, fun f hf hkey a v a' hset => ?_, fun f hf hne => ?_⟩
  · have hmem := List.mem_of_getElem? hposition
    have heq : f = field key decode' put := List.inj_on_of_nodup_map hnodup hf hmem hkey
    subst heq
    obtain ⟨c, hc, rfl⟩ := field_set_ok hset
    exact hput a v c hc
  · obtain ⟨i, hi⟩ := List.getElem?_of_mem hf
    refine hkeep f (List.mem_eraseIdx_iff_getElem?.mpr ⟨i, ?_, hi⟩)
    rintro rfl
    rw [hposition] at hi
    cases hi
    exact hne rfl

theorem Fills.exists_field (h : Fills key position decode get fields) :
    ∃ f ∈ fields, f.key = key := by
  obtain ⟨f, hf, hkey⟩ := Option.map_eq_some_iff.mp h.position
  exact ⟨f, List.mem_of_getElem? hf, hkey⟩

/-- An entry of a table goes to the field of its key, if there is one. -/
theorem fillFields_cons {k : String} {v : Value} {fs : List (String × Value)} {a a' : α}
    (hok : fillFields fields a ((k, v) :: fs) = .ok a') :
    (∃ f ∈ fields, f.key = k ∧ ∃ a₁, f.set a v = .ok a₁ ∧ fillFields fields a₁ fs = .ok a') ∨
      ((∀ f ∈ fields, f.key ≠ k) ∧ fillFields fields a fs = .ok a') := by
  rw [fillFields] at hok
  split at hok
  · next hnone =>
    refine Or.inr ⟨fun f hf heq => List.find?_eq_none.mp hnone f hf ?_, hok⟩
    rw [heq, beq_self_eq_true]
  · next f hf =>
    have hkey := List.find?_some hf
    rw [beq_iff_eq] at hkey
    split at hok
    · next a₁ hset => exact Or.inl ⟨f, List.mem_of_find?_eq_some hf, hkey, a₁, hset, hok⟩
    · cases hok

/-- An entry with another key leaves the value alone. -/
theorem Fills.other_entry (h : Fills key position decode get fields) {k : String} {v : Value}
    {fs : List (String × Value)} {a a' : α} (hok : fillFields fields a ((k, v) :: fs) = .ok a')
    (hk : k ≠ key) : ∃ a₁, get a₁ = get a ∧ fillFields fields a₁ fs = .ok a' := by
  rcases fillFields_cons hok with ⟨f, hf, rfl, a₁, hset, hrest⟩ | ⟨-, hrest⟩
  · exact ⟨a₁, h.keep f hf hk _ _ _ hset, hrest⟩
  · exact ⟨a, rfl, hrest⟩

/-- A table without the key leaves the value alone. -/
theorem fillFields_get_of_notMem (h : Fills key position decode get fields)
    {fs : List (String × Value)} {a a' : α} (hok : fillFields fields a fs = .ok a')
    (hkey : key ∉ fs.map Prod.fst) : get a' = get a := by
  induction fs generalizing a with
  | nil =>
    cases hok
    rfl
  | cons kv fs ih =>
    rw [List.map_cons, List.mem_cons, not_or] at hkey
    obtain ⟨a₁, hget, hrest⟩ := h.other_entry hok (Ne.symm hkey.1)
    rw [ih hrest hkey.2, hget]

/-- A table sets the value to that of the key, if it has the key. -/
theorem fillFields_taken (h : Fills key position decode get fields) {fs : List (String × Value)}
    (hfs : (fs.map Prod.fst).Nodup) {a a' : α} (hok : fillFields fields a fs = .ok a') :
    Taken decode (get a) (get a') (Toml.Table.get? fs key) := by
  induction fs generalizing a with
  | nil =>
    cases hok
    rfl
  | cons kv fs ih =>
    obtain ⟨k, v⟩ := kv
    rw [List.map_cons, List.nodup_cons] at hfs
    rw [Toml.Table.get?_cons]
    by_cases hk : k = key
    · subst hk
      rw [if_pos rfl]
      rcases fillFields_cons hok with ⟨f, hf, hkey, a₁, hset, hrest⟩ | ⟨hnone, -⟩
      · change decode v = .ok (get a')
        rw [fillFields_get_of_notMem h hrest hfs.1]
        exact h.fill f hf hkey _ _ _ hset
      · obtain ⟨f, hf, hkey⟩ := h.exists_field
        exact absurd hkey (hnone f hf)
    · obtain ⟨a₁, hget, hrest⟩ := h.other_entry hok hk
      rw [if_neg hk, ← hget]
      exact ih hfs.2 hrest

/-- The first value of an array goes to the first field. -/
theorem fillItems_cons {f : Field α} {v : Value} {vs : List Value} {a a' : α}
    (hok : fillItems (f :: fields) a (v :: vs) = .ok a') :
    ∃ a₁, f.set a v = .ok a₁ ∧ fillItems fields a₁ vs = .ok a' := by
  rw [fillItems] at hok
  split at hok
  · next a₁ hset => exact ⟨a₁, hset, hok⟩
  · cases hok

theorem fillItems_get_of_keeps (h : ∀ f ∈ fields, f.Keeps get) {vs : List Value} {a a' : α}
    (hok : fillItems fields a vs = .ok a') : get a' = get a := by
  induction fields generalizing a vs with
  | nil =>
    cases hok
    rfl
  | cons f fields ih =>
    cases vs with
    | nil =>
      cases hok
      rfl
    | cons v vs =>
      obtain ⟨a₁, hset, hrest⟩ := fillItems_cons hok
      rw [ih (fun g hg => h g (List.mem_cons_of_mem _ hg)) hrest]
      exact h f List.mem_cons_self _ _ _ hset

/-- Behind the first field, which is that of the key, no field has it. -/
theorem Fills.keeps_behind {f : Field α} (h : Fills key 0 decode get (f :: fields)) :
    ∀ g ∈ fields, g.Keeps get := by
  intro g hg
  have hkey : f.key = key := Option.some.inj h.position
  refine h.keep g (List.mem_cons_of_mem _ hg) fun heq => (List.nodup_cons.mp h.nodup).1 ?_
  rw [hkey, ← heq]
  exact List.mem_map_of_mem hg

/-- A field in front of that of the key has another one, and the fields behind it fill the value. -/
theorem Fills.behind {f : Field α} (h : Fills key (position + 1) decode get (f :: fields)) :
    f.key ≠ key ∧ Fills key position decode get fields := by
  have hnodup := List.nodup_cons.mp h.nodup
  have hrest : Fills key position decode get fields :=
    ⟨hnodup.2, h.position, fun g hg => h.fill g (List.mem_cons_of_mem _ hg),
      fun g hg => h.keep g (List.mem_cons_of_mem _ hg)⟩
  refine ⟨fun heq => hnodup.1 ?_, hrest⟩
  obtain ⟨g, hg, hkey⟩ := hrest.exists_field
  rw [heq, ← hkey]
  exact List.mem_map_of_mem hg

/-- An array sets the value to that at the position, if it is long enough. -/
theorem fillItems_taken (h : Fills key position decode get fields) {vs : List Value} {a a' : α}
    (hok : fillItems fields a vs = .ok a') : Taken decode (get a) (get a') vs[position]? := by
  induction fields generalizing a vs position with
  | nil => cases h.position
  | cons f fields ih =>
    cases vs with
    | nil =>
      cases hok
      rfl
    | cons v vs =>
      obtain ⟨a₁, hset, hrest⟩ := fillItems_cons hok
      cases position with
      | zero =>
        change decode v = .ok (get a')
        rw [fillItems_get_of_keeps h.keeps_behind hrest]
        exact h.fill f List.mem_cons_self (Option.some.inj h.position) _ _ _ hset
      | succ position =>
        obtain ⟨hne, hbehind⟩ := h.behind
        rw [List.getElem?_cons_succ, ← h.keep f List.mem_cons_self hne _ _ _ hset]
        exact ih hbehind hrest

/-- A section sets the value to the item that it holds. -/
theorem ofFields_taken (h : Fills key position decode get fields) {v : Value} (hv : v.WellFormed)
    {a a' : α} (hok : ofFields fields a v = .ok a') :
    Taken decode (get a) (get a') (itemOf? key position v) := by
  unfold ofFields at hok
  split at hok
  · cases hv with
    | table hnodup _ => exact fillFields_taken h hnodup hok
  · exact fillItems_taken h hok
  · cases hok
    rfl
  · cases hok

end

/-! ## Documents -/

/-- A setting in a section of a document. -/
theorem taken_of_section {σ β : Type} {fields : List (Field σ)} {start : σ} {group key : String}
    {groupPosition position : Nat} {decode : Decoder β} {outer : Config → σ} {inner : σ → β}
    (houter : Fills group groupPosition (ofFields fields start) outer sections)
    (hstart : outer {} = start) (hinner : Fills key position decode inner fields)
    {t : Toml.Table} (ht : Toml.Value.WellFormed (.table t)) {c : Config}
    (hc : ofTable t = .ok c) :
    Taken decode (inner start) (inner (outer c)) ((t.get? group).bind (itemOf? key position)) := by
  have hnodup : (t.map Prod.fst).Nodup := by
    cases ht with
    | table hnodup _ => exact hnodup
  have htaken := fillFields_taken houter hnodup hc
  cases hget : Toml.Table.get? t group with
  | none =>
    rw [hget] at htaken
    change outer c = outer {} at htaken
    rw [htaken, hstart]
    rfl
  | some v =>
    rw [hget] at htaken
    exact ofFields_taken hinner (ht.of_get? hget) htaken

theorem map_some_ok {β : Type} {o : Except Problem β} {b : β} (h : o = .ok b) :
    o.map some = .ok (some b) := by
  rw [h]
  rfl

theorem sections_node :
    Fills "node" 0 (ofFields nodeFields {}) Config.node sections :=
  .of_field (by decide) rfl (fun _ _ _ h => h) (by simp [sections])

theorem sections_keys :
    Fills "keys" 1 (ofFields keyFields {}) Config.keys sections :=
  .of_field (by decide) rfl (fun _ _ _ h => h) (by simp [sections])

theorem sections_tools :
    Fills "tools" 2 (ofFields toolFields {}) Config.tools sections :=
  .of_field (by decide) rfl (fun _ _ _ h => h) (by simp [sections])

/-- **A document sets what it holds**, and leaves all else at the default. -/
theorem Setting.taken (s : Setting) {t : Toml.Table} (ht : Toml.Value.WellFormed (.table t))
    {c : Config} (hc : ofTable t = .ok c) : Taken s.decode s.default (s.get c) (s.item? t) := by
  cases s with
  | binary =>
    have h : Fills "binary" 0 string NodeSettings.binary nodeFields :=
      .of_field (by decide) rfl (fun _ _ _ h => h) (by simp [nodeFields])
    exact taken_of_section sections_node rfl h ht hc
  | buildCommand =>
    have h : Fills "build_command" 1 (list string) NodeSettings.buildCommand nodeFields :=
      .of_field (by decide) rfl (fun _ _ _ h => h) (by simp [nodeFields])
    exact taken_of_section sections_node rfl h ht hc
  | workingDir =>
    have h : Fills "working_dir" 2 (fun v => (string v).map some) NodeSettings.workingDir
        nodeFields :=
      .of_field (by decide) rfl (fun _ _ _ => map_some_ok) (by simp [nodeFields])
    exact taken_of_section sections_node rfl h ht hc
  | timeout =>
    have h : Fills "command_timeout_secs" 3 (fun v => (natural v).map some)
        NodeSettings.timeoutSeconds nodeFields :=
      .of_field (by decide) rfl (fun _ _ _ => map_some_ok) (by simp [nodeFields])
    exact taken_of_section sections_node rfl h ht hc
  | keyFile =>
    have h : Fills "file" 0 string KeySettings.file keyFields :=
      .of_field (by decide) rfl (fun _ _ _ h => h) (by simp [keyFields])
    exact taken_of_section sections_keys rfl h ht hc
  | schemes =>
    have h : Fills "schemes" 1 (list scheme) KeySettings.schemes keyFields :=
      .of_field (by decide) rfl (fun _ _ _ h => h) (by simp [keyFields])
    exact taken_of_section sections_keys rfl h ht hc
  | bindings =>
    have h : Fills "bindings" 2 (list binding) KeySettings.bindings keyFields :=
      .of_field (by decide) rfl (fun _ _ _ h => h) (by simp [keyFields])
    exact taken_of_section sections_keys rfl h ht hc
  | rounds =>
    have h : Fills "rounds" 3 natural KeySettings.rounds keyFields :=
      .of_field (by decide) rfl (fun _ _ _ h => h) (by simp [keyFields])
    exact taken_of_section sections_keys rfl h ht hc
  | conflictPolicy =>
    have h : Fills "conflict_policy" 4 policy KeySettings.conflictPolicy keyFields :=
      .of_field (by decide) rfl (fun _ _ _ h => h) (by simp [keyFields])
    exact taken_of_section sections_keys rfl h ht hc
  | requiredTools =>
    have h : Fills "required" 0 (list string) ToolSettings.required toolFields :=
      .of_field (by decide) rfl (fun _ _ _ h => h) (by simp [toolFields])
    exact taken_of_section sections_tools rfl h ht hc

/-! ## Layers -/

namespace Setting

variable (s : Setting)

theorem layer_eq_ite {α : Type} [DecidableEq α] (default lower upper : α) :
    layer default lower upper = if decide (upper = default) = true then lower else upper := by
  simp only [layer, decide_eq_true_eq]

theorem layerOption_eq_ite {α : Type} [DecidableEq α] (lower upper : Option α) :
    layerOption lower upper = if decide (upper = none) = true then lower else upper := by
  cases upper with
  | none => rfl
  | some a => rfl

theorem isDefault_default : s.isDefault s.default = true := by
  cases s <;> rfl

theorem get_merge (lower upper : Config) : s.get (lower.merge upper) =
    if s.isDefault (s.get upper) then s.get lower else s.get upper := by
  cases s with
  | workingDir => exact layerOption_eq_ite lower.node.workingDir upper.node.workingDir
  | timeout => exact layerOption_eq_ite lower.node.timeoutSeconds upper.node.timeoutSeconds
  | keyFile => rfl
  | binary => exact layer_eq_ite _ lower.node.binary upper.node.binary
  | buildCommand => exact layer_eq_ite _ lower.node.buildCommand upper.node.buildCommand
  | schemes => exact layer_eq_ite _ lower.keys.schemes upper.keys.schemes
  | bindings => exact layer_eq_ite _ lower.keys.bindings upper.keys.bindings
  | rounds => exact layer_eq_ite _ lower.keys.rounds upper.keys.rounds
  | conflictPolicy => exact layer_eq_ite _ lower.keys.conflictPolicy upper.keys.conflictPolicy
  | requiredTools => exact layer_eq_ite _ lower.tools.required upper.tools.required

/-- The settings of a document over other settings. -/
theorem get_merge_document {t : Toml.Table} (ht : Toml.Value.WellFormed (.table t))
    {upper : Config} (hc : ofTable t = .ok upper) (lower : Config) :
    s.get (lower.merge upper) = (s.override? t).getD (s.get lower) := by
  have htaken := s.taken ht hc
  rw [get_merge, override?, given?]
  cases hitem : s.item? t with
  | none =>
    rw [hitem] at htaken
    change s.get upper = s.default at htaken
    rw [htaken, isDefault_default]
    rfl
  | some v =>
    rw [hitem] at htaken
    change s.decode v = .ok (s.get upper) at htaken
    rw [Option.bind_some, htaken]
    by_cases hd : s.isDefault (s.get upper) = true
    · rw [if_pos hd]
      simp [Except.toOption, Option.filter, hd]
    · rw [if_neg hd]
      simp [Except.toOption, Option.filter, hd]

end Setting

/-! ## Files -/

section

variable {t : FileTree} {cwd path : String} {table : Toml.Table}

theorem loadFile_of_document (h : document? t cwd path = some table) :
    ∃ c, loadFile t cwd path = .ok c ∧ ofTable table = .ok c ∧
      Toml.Value.WellFormed (.table table) := by
  unfold document? at h
  split at h
  · next text htext =>
    obtain ⟨hparse, hok⟩ := Option.filter_eq_some_iff.mp h
    cases hc : ofTable table with
    | error p =>
      rw [hc] at hok
      cases hok
    | ok c =>
      refine ⟨c, ?_, rfl, Toml.parse?_wellFormed hparse⟩
      rw [loadFile, htext]
      simp only [hparse, hc]
  · cases h

theorem exists?_of_document (h : document? t cwd path = some table) :
    t.exists? cwd path = true := by
  unfold document? at h
  split at h
  · next text htext => exact FileTree.exists?_of_readText htext
  · cases h

/-- What a layer that may be absent sets stands over the settings below. -/
theorem mergeOptional_of_layer (h : IsLayer t cwd (some path) table) (lower : Config) :
    ∃ c, mergeOptional t cwd lower path = .ok c ∧
      ∀ s : Setting, s.get c = (s.override? table).getD (s.get lower) := by
  cases h with
  | absent habsent =>
    refine ⟨lower, ?_, fun s => rfl⟩
    rw [mergeOptional, habsent]
    rfl
  | present hdoc =>
    obtain ⟨c, hload, hc, ht⟩ := loadFile_of_document hdoc
    refine ⟨lower.merge c, ?_, fun s => s.get_merge_document ht hc lower⟩
    rw [mergeOptional, exists?_of_document hdoc, hload]
    rfl

end

theorem applyVariables_of_unset {e : Environment}
    (he : ∀ name ∈ ["KEYFORGE_NODE_BINARY", "KEYFORGE_KEY_FILE", "KEYFORGE_ROUNDS"],
      e.get? name = none) (c : Config) : applyVariables e c = (c, []) := by
  have hblank : ∀ name ∈ ["KEYFORGE_NODE_BINARY", "KEYFORGE_KEY_FILE", "KEYFORGE_ROUNDS"],
      e.nonBlank? name = none := by
    intro name hname
    rw [Environment.nonBlank?, he name hname]
    rfl
  rw [applyVariables, hblank "KEYFORGE_NODE_BINARY" (by simp), hblank "KEYFORGE_KEY_FILE" (by simp),
    hblank "KEYFORGE_ROUNDS" (by simp)]

def loadGlobal (t : FileTree) (e : Environment) : Except Error Config :=
  match globalPath? e with
  | some path => mergeOptional t e.directory {} path
  | none => .ok {}

/-- The settings of the layer over the global one, over those of the global one. -/
def loadUpper (t : FileTree) (e : Environment) (explicit projectDir : Option String) (c : Config) :
    Except Error Config :=
  match explicit, projectDir with
  | some path, _ => (loadFile t e.directory path).map c.merge
  | none, some dir => mergeOptional t e.directory c (Path.join dir projectFile)
  | none, none => .ok c

theorem loadFiles_eq_bind (t : FileTree) (e : Environment) (explicit projectDir : Option String) :
    loadFiles t e explicit projectDir =
      (loadGlobal t e).bind (loadUpper t e explicit projectDir) := by
  unfold loadFiles loadGlobal
  cases globalPath? e with
  | none => rfl
  | some path => rfl

theorem loadGlobal_eq {t : FileTree} {e : Environment} {global : Toml.Table}
    (hglobal : IsLayer t e.directory (globalPath? e) global) :
    ∃ c, loadGlobal t e = .ok c ∧ ∀ s : Setting, s.get c = (s.override? global).getD s.default := by
  unfold loadGlobal
  cases hpath : globalPath? e with
  | none =>
    rw [hpath] at hglobal
    cases hglobal
    exact ⟨{}, rfl, fun s => rfl⟩
  | some path =>
    rw [hpath] at hglobal
    exact mergeOptional_of_layer hglobal {}

theorem loadUpper_eq {t : FileTree} {e : Environment} {explicit projectDir : Option String}
    {upper : Toml.Table} (hupper : IsUpperLayer t e.directory explicit projectDir upper)
    (lower : Config) :
    ∃ c, loadUpper t e explicit projectDir lower = .ok c ∧
      ∀ s : Setting, s.get c = (s.override? upper).getD (s.get lower) := by
  cases explicit with
  | some path =>
    obtain ⟨u, hload, hu, ht⟩ := loadFile_of_document hupper
    refine ⟨lower.merge u, ?_, fun s => s.get_merge_document ht hu lower⟩
    change (loadFile t e.directory path).map lower.merge = _
    rw [hload]
    rfl
  | none =>
    cases projectDir with
    | none =>
      cases hupper
      exact ⟨lower, rfl, fun s => rfl⟩
    | some dir => exact mergeOptional_of_layer hupper lower

/-- The files give each setting the value that its layers choose. -/
theorem loadFiles_eq {t : FileTree} {e : Environment} {explicit projectDir : Option String}
    {global upper : Toml.Table} (hglobal : IsLayer t e.directory (globalPath? e) global)
    (hupper : IsUpperLayer t e.directory explicit projectDir upper) :
    ∃ c, loadFiles t e explicit projectDir = .ok c ∧
      ∀ s : Setting, s.get c = s.chosen global upper := by
  obtain ⟨g, hg, hget⟩ := loadGlobal_eq hglobal
  obtain ⟨c, hc, hgetc⟩ := loadUpper_eq hupper g
  refine ⟨c, ?_, fun s => ?_⟩
  · rw [loadFiles_eq_bind, hg]
    exact hc
  · rw [hgetc s, hget s, Setting.chosen]
    cases s.override? upper with
    | none => rfl
    | some a => rfl

/-! ## The file of the project -/

/-- Two trees that differ at one location at most, where neither has a directory. -/
structure DifferAt (l : Location) (t t' : FileTree) : Prop where
  elsewhere : ∀ k, k ≠ l → t'.get? k = t.get? k
  before : ∀ n, t.get? l = some n → n.isDirectory = false
  after : ∀ n, t'.get? l = some n → n.isDirectory = false

namespace DifferAt

variable {l : Location} {t t' : FileTree} {cwd path : String}

theorem symm (h : DifferAt l t t') : DifferAt l t' t :=
  ⟨fun k hk => (h.elsewhere k hk).symm, h.after, h.before⟩

theorem hasDirectory (h : DifferAt l t t') {k : Location} (hk : t.HasDirectory k) :
    t'.HasDirectory k :=
  FileTree.hasDirectory_of_elsewhere h.elsewhere h.before hk

/-- A path that leads somewhere leads there in the other tree too: it does not go through the
location. -/
theorem locate (h : DifferAt l t t') {k : Location} (hk : t.locate cwd path = .ok k) :
    t'.locate cwd path = .ok k :=
  FileTree.locate_of_directories (fun _ => h.hasDirectory) hk

/-- What is looked up elsewhere is the same. -/
theorem lookup (h : DifferAt l t t') (hpath : t.locate cwd path ≠ .ok l) {x : Location × Node}
    (hx : t.lookup cwd path = .ok x) : t'.lookup cwd path = .ok x := by
  obtain ⟨hk, hget, hslash⟩ := FileTree.lookup_eq_ok_iff.mp hx
  have hne : x.1 ≠ l := fun heq => hpath (heq ▸ hk)
  exact FileTree.lookup_eq_ok_iff.mpr ⟨h.locate hk, by rw [h.elsewhere _ hne, hget], hslash⟩

theorem locate_ne (h : DifferAt l t t') (hpath : t.locate cwd path ≠ .ok l) :
    t'.locate cwd path ≠ .ok l := fun h' => hpath (h.symm.locate h')

theorem exists? (h : DifferAt l t t') (hpath : t.locate cwd path ≠ .ok l) :
    t'.exists? cwd path = t.exists? cwd path := by
  rw [Bool.eq_iff_iff, FileTree.exists?_iff, FileTree.exists?_iff]
  constructor
  · rintro ⟨x, hx⟩
    exact ⟨x, h.symm.lookup (h.locate_ne hpath) hx⟩
  · rintro ⟨x, hx⟩
    exact ⟨x, h.lookup hpath hx⟩

theorem loadFile (h : DifferAt l t t') (hpath : t.locate cwd path ≠ .ok l)
    (hexists : t.exists? cwd path = true) : loadFile t' cwd path = loadFile t cwd path := by
  obtain ⟨x, hx⟩ := FileTree.exists?_iff.mp hexists
  have hlookup : t'.lookup cwd path = t.lookup cwd path := by rw [hx, h.lookup hpath hx]
  rw [Config.loadFile, FileTree.readText_congr hlookup, Config.loadFile]

theorem mergeOptional (h : DifferAt l t t') (hpath : t.locate cwd path ≠ .ok l) (c : Config) :
    mergeOptional t' cwd c path = mergeOptional t cwd c path := by
  rw [Config.mergeOptional, h.exists? hpath, Config.mergeOptional]
  by_cases hexists : t.exists? cwd path = true
  · rw [if_pos hexists, if_pos hexists, h.loadFile hpath hexists]
  · rw [if_neg hexists, if_neg hexists]

end DifferAt

/-- With a file that is named explicitly, a change at a location where neither it nor the global
file is, such as that of the project's file, changes nothing. -/
theorem loadFiles_explicit {t t' : FileTree} {e : Environment} {path : String} {l : Location}
    (h : DifferAt l t t') (hglobal : ∀ g, globalPath? e = some g → t.locate e.directory g ≠ .ok l)
    (hpath : t.locate e.directory path ≠ .ok l) (hexists : t.exists? e.directory path = true)
    (projectDir projectDir' : Option String) :
    loadFiles t' e (some path) projectDir' = loadFiles t e (some path) projectDir := by
  have hlower : loadGlobal t' e = loadGlobal t e := by
    unfold loadGlobal
    cases hg : globalPath? e with
    | none => rfl
    | some g => exact h.mergeOptional (hglobal g hg) {}
  have hupper : loadUpper t' e (some path) projectDir' = loadUpper t e (some path) projectDir := by
    funext c
    change (Config.loadFile t' e.directory path).map c.merge =
      (Config.loadFile t e.directory path).map c.merge
    rw [h.loadFile hpath hexists]
  rw [loadFiles_eq_bind, loadFiles_eq_bind, hlower, hupper]

/-! ## Loading -/

/-- **The priority of the layers.**  Where the files there are can be loaded and no variable is set,
each setting has the value of the upper file unless that is the default, else the value of the
global file unless that is the default, else the default.  Where the upper file is named explicitly
the file of the project has no influence, in whichever directory and whatever it holds. -/
theorem load_priority {t : FileTree} {e : Environment} {explicit projectDir : Option String}
    {global upper : Toml.Table}
    (henv : ∀ name ∈ ["KEYFORGE_NODE_BINARY", "KEYFORGE_KEY_FILE", "KEYFORGE_ROUNDS"],
      e.get? name = none)
    (hglobal : IsLayer t e.directory (globalPath? e) global)
    (hupper : IsUpperLayer t e.directory explicit projectDir upper) :
    ∃ c, load t e explicit projectDir = .ok (c, []) ∧
      (∀ s : Setting, s.get c = s.chosen global upper) ∧
      ∀ path, explicit = some path → ∀ (l : Location) (t' : FileTree), DifferAt l t t' →
        t.locate e.directory path ≠ .ok l →
        (∀ g, globalPath? e = some g → t.locate e.directory g ≠ .ok l) →
        ∀ projectDir', load t' e explicit projectDir' = .ok (c, []) := by
  obtain ⟨c, hc, hget⟩ := loadFiles_eq hglobal hupper
  have hload : ∀ {t' dir}, loadFiles t' e explicit dir = .ok c →
      load t' e explicit dir = .ok (c, []) := by
    intro t' dir h
    rw [load, h, Except.map, applyVariables_of_unset henv]
  refine ⟨c, hload hc, hget, ?_⟩
  rintro path rfl l t' hdiffer hpath hglobal' projectDir'
  refine hload ?_
  rw [loadFiles_explicit hdiffer hglobal' hpath (exists?_of_document hupper) projectDir projectDir']
  exact hc

/-! ## Two and five rounds -/

/-- A global file that asks for five rounds, and a file of the project's directory. -/
def fiveRounds (name text : String) : FileTree :=
  (({} : FileTree).put "/" "/config/keyforge/config.toml"
    (.file "[keys]\nrounds = 5\n".toUTF8 0o644)).put "/project" name (.file text.toUTF8 0o644)

/-- An environment in which the global file is that one. -/
def fiveRoundsEnvironment : Environment := ⟨"/project", [("XDG_CONFIG_HOME", "/config")]⟩

theorem exists_document {t : FileTree} {cwd path : String} {p : Toml.Table → Bool}
    (h : (document? t cwd path).any p = true) :
    ∃ table, document? t cwd path = some table ∧ p table = true := by
  cases hdoc : document? t cwd path with
  | none =>
    rw [hdoc] at h
    cases h
  | some table =>
    rw [hdoc] at h
    exact ⟨table, rfl, h⟩

theorem ok_of_toOption {α β : Type} {o : Except α β} {b : β} (h : o.toOption = some b) :
    o = .ok b := by
  cases o with
  | error a => cases h
  | ok b' =>
    cases h
    rfl

/-- A project that asks for two rounds, which is the default, over a global file that asks for five
gets five: the value that the upper file sets is lost. -/
theorem two_rounds_over_five_are_lost :
    ∃ (e : Environment) (t : FileTree) (global upper : Toml.Table) (c : Config)
      (two : Setting.rounds.Value),
      (∀ v ∈ e.vars, v.1.startsWith "KEYFORGE_" = false) ∧
      IsLayer t e.directory (globalPath? e) global ∧
      IsUpperLayer t e.directory none (some "/project") upper ∧
      load t e none (some "/project") = .ok (c, []) ∧
      Setting.rounds.given? upper = some two ∧ Setting.rounds.get c ≠ two := by
  let t := fiveRounds ".keyforge.toml" "[keys]\nrounds = 2\n"
  have hglobal : ((document? t "/project" "/config/keyforge/config.toml").any
      fun _ => true) = true := by
    decide +kernel
  have hupper : ((document? t "/project" "/project/.keyforge.toml").any
      fun table => Setting.rounds.given? table == some Setting.rounds.default) = true := by
    decide +kernel
  have hload : (load t fiveRoundsEnvironment none (some "/project")).toOption =
      some ({ keys := { rounds := 5 } }, []) := by
    decide +kernel
  obtain ⟨global, hglobal, -⟩ := exists_document hglobal
  obtain ⟨upper, hupper, hgiven⟩ := exists_document hupper
  exact ⟨fiveRoundsEnvironment, t, global, upper, { keys := { rounds := 5 } },
    Setting.rounds.default, by decide +kernel, .present hglobal, .present hupper,
    ok_of_toOption hload, eq_of_beq hgiven, by decide⟩

/-- A file that is named explicitly and asks for three rounds gets three, also when the project has
a file that cannot be read. -/
theorem load_priority_three_over_five :
    let t := fiveRounds "three.toml" "[keys]\nrounds = 3\n"
    let t' := t.set [".keyforge.toml", "project"] (.file "[".toUTF8 0o644)
    ∃ c : Config, c.keys.rounds = 3 ∧
      load t fiveRoundsEnvironment (some "three.toml") (some "/project") = .ok (c, []) ∧
      load t' fiveRoundsEnvironment (some "three.toml") (some "/project") = .ok (c, []) := by
  intro t t'
  have hglobal : ((document? t "/project" "/config/keyforge/config.toml").any
      fun _ => true) = true := by
    decide +kernel
  have hupper : ((document? t "/project" "three.toml").any
      fun table => Setting.rounds.override? table == some (3 : Nat)) = true := by
    decide +kernel
  have henv : ∀ name ∈ ["KEYFORGE_NODE_BINARY", "KEYFORGE_KEY_FILE", "KEYFORGE_ROUNDS"],
      fiveRoundsEnvironment.get? name = none := by
    decide +kernel
  have hdiffer : DifferAt [".keyforge.toml", "project"] t t' := by
    refine ⟨fun k hk => FileTree.get?_set_of_ne _ _ _ _ hk, fun n hn => ?_, fun n hn => ?_⟩
    · have habsent : t.get? [".keyforge.toml", "project"] = none := by decide +kernel
      rw [habsent] at hn
      cases hn
    · rw [FileTree.get?_set_self] at hn
      cases hn
      rfl
  obtain ⟨global, hglobal, -⟩ := exists_document hglobal
  obtain ⟨upper, hupper, hgiven⟩ := exists_document hupper
  have hup : IsUpperLayer t fiveRoundsEnvironment.directory (some "three.toml") (some "/project")
      upper := hupper
  obtain ⟨c, hc, hget, hproject⟩ := load_priority henv (.present hglobal) hup
  have hpath : t.locate "/project" "three.toml" = .ok ["three.toml", "project"] := by rfl
  have hg : t.locate "/project" "/config/keyforge/config.toml" =
      .ok ["config.toml", "keyforge", "config"] := by rfl
  have hrounds := hget .rounds
  rw [Setting.chosen, eq_of_beq hgiven] at hrounds
  refine ⟨c, hrounds, hc, hproject _ rfl _ t' hdiffer ?_ ?_ _⟩
  · change t.locate "/project" "three.toml" ≠ _
    rw [hpath]
    intro h
    exact absurd (Except.ok.inj h) (by decide)
  · intro g hglobal'
    have heq : g = "/config/keyforge/config.toml" := by
      have hpath? : globalPath? fiveRoundsEnvironment = some "/config/keyforge/config.toml" := by
        decide +kernel
      rw [hpath?] at hglobal'
      exact (Option.some.inj hglobal').symm
    change t.locate "/project" g ≠ _
    rw [heq, hg]
    intro h
    exact absurd (Except.ok.inj h) (by decide)

end ValidatorKeys.Config
