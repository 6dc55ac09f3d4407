import ValidatorKeys.Config.Settings
import ValidatorKeys.Toml.Value

/-!
# Settings from TOML

Each section is a table, or an array with the values in the order of the fields; a date-time counts
as a table without any of the keys.  Unknown keys are ignored, missing ones take their default; a
binding has no defaults.  The first problem in the order of the document is the one that is told.
-/

namespace ValidatorKeys.Config

open Toml (Value)

/-- Why a value does not fit its setting. -/
inductive Problem where
  | invalidKeyType (text : String)
  | unknownScheme (text : String)
  | unknownPolicy (text : String)
  | missingField (name : String)
  | mismatch
  deriving Repr, DecidableEq

/-- The text of a problem with a value of this program's own kinds; other problems have none. -/
def Problem.detail? : Problem → Option String
  | .invalidKeyType text => some (LabelError.invalidKeyType text).message
  | .unknownScheme text =>
    some ("unknown variant `" ++ text ++ "`, expected one of `sr25519`, `ed25519`, `ecdsa`")
  | .unknownPolicy text =>
    some ("unknown variant `" ++ text ++ "`, expected `advance` or `first-match-only`")
  | .missingField name => some ("missing field `" ++ name ++ "`")
  | .mismatch => none

/-- Reads a value as something else. -/
abbrev Decoder (α : Type) := Value → Except Problem α

/-! ## Plain values -/

def string : Decoder String
  | .string s => .ok s
  | _ => .error .mismatch

/-- A whole number that is not negative. -/
def natural : Decoder Nat
  | .integer n => if 0 ≤ n then .ok n.toNat else .error .mismatch
  | _ => .error .mismatch

def list {α : Type} (item : Decoder α) : Decoder (List α)
  | .array vs => vs.mapM item
  | _ => .error .mismatch

/-- One of several names: a string, or a table with the name as its only key and nothing under
it. -/
def choice {α : Type} (ofName? : String → Option α) (unknown : String → Problem) : Decoder α
  | .string s =>
    match ofName? s with
    | some a => .ok a
    | none => .error (unknown s)
  | .table [(s, v)] =>
    match ofName? s with
    | some a =>
      match v with
      | .array [] => .ok a
      | .table [] => .ok a
      | _ => .error .mismatch
    | none => .error (unknown s)
  | _ => .error .mismatch

def scheme : Decoder Scheme := choice Scheme.ofName? .unknownScheme

/-- A conflict policy. -/
def policy : Decoder ConflictPolicy := choice ConflictPolicy.ofName? .unknownPolicy

def keyType (v : Value) : Except Problem KeyType :=
  match string v with
  | .error p => .error p
  | .ok s =>
    match KeyType.ofText s with
    | .ok k => .ok k
    | .error _ => .error (.invalidKeyType s)

/-! ## Sections -/

/-- A field of a section: its key, and how its value changes the section. -/
structure Field (α : Type) where
  key : String
  set : α → Value → Except Problem α

def field {α β : Type} (key : String) (decode : Decoder β) (put : α → β → α) : Field α :=
  ⟨key, fun a v => (decode v).map (put a)⟩

/-- Fills a section from the fields of a table, in the order of the table. -/
def fillFields {α : Type} (fields : List (Field α)) :
    α → List (String × Value) → Except Problem α
  | a, [] => .ok a
  | a, (k, v) :: rest =>
    match fields.find? fun f => f.key == k with
    | none => fillFields fields a rest
    | some f =>
      match f.set a v with
      | .ok a => fillFields fields a rest
      | .error p => .error p

/-- Fills a section from the values of an array, in the order of the fields. -/
def fillItems {α : Type} : List (Field α) → α → List Value → Except Problem α
  | f :: fields, a, v :: rest =>
    match f.set a v with
    | .ok a => fillItems fields a rest
    | .error p => .error p
  | _, a, _ => .ok a

/-- A section: a table or an array over the default. -/
def ofFields {α : Type} (fields : List (Field α)) (default : α) : Decoder α
  | .table fs => fillFields fields default fs
  | .array vs => fillItems fields default vs
  | .dateTime _ => .ok default
  | _ => .error .mismatch

/-- A binding under construction. -/
structure PartialBinding where
  scheme : Option Scheme := none
  keyType : Option KeyType := none

def bindingFields : List (Field PartialBinding) :=
  [field "scheme" scheme fun b s => { b with scheme := some s },
    field "key_type" keyType fun b k => { b with keyType := some k }]

/-- A binding: both fields are needed. -/
def binding (v : Value) : Except Problem Binding :=
  match ofFields bindingFields {} v, v with
  | .error p, _ => .error p
  | .ok ⟨some s, some k⟩, _ => .ok ⟨s, k⟩
  | .ok _, .array _ => .error .mismatch
  | .ok ⟨none, _⟩, _ => .error (.missingField "scheme")
  | .ok ⟨_, none⟩, _ => .error (.missingField "key_type")

def nodeFields : List (Field NodeSettings) :=
  [field "binary" string fun n v => { n with binary := v },
    field "build_command" (list string) fun n v => { n with buildCommand := v },
    field "working_dir" string fun n v => { n with workingDir := some v },
    field "command_timeout_secs" natural fun n v => { n with timeoutSeconds := some v }]

def keyFields : List (Field KeySettings) :=
  [field "file" string fun k v => { k with file := v },
    field "schemes" (list scheme) fun k v => { k with schemes := v },
    field "bindings" (list binding) fun k v => { k with bindings := v },
    field "rounds" natural fun k v => { k with rounds := v },
    field "conflict_policy" policy fun k v => { k with conflictPolicy := v }]

def toolFields : List (Field ToolSettings) :=
  [field "required" (list string) fun t v => { t with required := v }]

def sections : List (Field Config) :=
  [field "node" (ofFields nodeFields {}) fun c v => { c with node := v },
    field "keys" (ofFields keyFields {}) fun c v => { c with keys := v },
    field "tools" (ofFields toolFields {}) fun c v => { c with tools := v }]

/-- The settings that a document gives, over the defaults. -/
def ofTable (t : Toml.Table) : Except Problem Config := fillFields sections {} t

end ValidatorKeys.Config
