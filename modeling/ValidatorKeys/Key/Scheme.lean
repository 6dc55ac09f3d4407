/-!
# Signature schemes and key types

A node signs with one of three schemes and files each key under a key type, a label of exactly four
ASCII letters or digits.  A binding says which scheme a key type requires.

    Scheme.ofText? s.name = some s
-/

namespace ValidatorKeys

/-! ## Schemes -/

inductive Scheme where
  | sr25519
  | ed25519
  | ecdsa
  deriving Repr, DecidableEq

namespace Scheme

def all : List Scheme := [.sr25519, .ed25519, .ecdsa]

/-- The name of a scheme, as it is written everywhere. -/
def name : Scheme → String
  | .sr25519 => "sr25519"
  | .ed25519 => "ed25519"
  | .ecdsa => "ecdsa"

/-- The scheme with the given name, ASCII case ignored. -/
def ofText? (text : String) : Option Scheme :=
  all.find? fun s => s.name.toList == text.toList.map Char.toLower

/-- The scheme whose name is written exactly so. -/
def ofName? (text : String) : Option Scheme := all.find? fun s => s.name == text

/-- The label that opens the lines of this scheme in a key file. -/
def label (s : Scheme) : List Char := s.name.toList ++ [':']

theorem mem_all (s : Scheme) : s ∈ all := by
  cases s <;> simp [all]

end Scheme

/-! ## Key types -/

/-- Whether a text can label a key type: four ASCII letters or digits. -/
def isKeyLabel (text : String) : Bool :=
  text.toList.length == 4 && text.toList.all Char.isAlphanum

/-- Role of a key in the node's keystore, such as `babe` or `gran`. -/
structure KeyType where
  label : String
  valid : isKeyLabel label = true := by decide
  deriving DecidableEq

/-- A text that names no scheme, or that cannot label a key type. -/
inductive LabelError where
  | unknownScheme
  | invalidKeyType (text : String)
  deriving Repr, DecidableEq

def LabelError.message : LabelError → String
  | .unknownScheme => "Matching variant not found"
  | .invalidKeyType text =>
    "invalid key type '" ++ text ++ "': expected exactly 4 ASCII alphanumeric characters"

def Scheme.ofText (text : String) : Except LabelError Scheme :=
  match Scheme.ofText? text with
  | some s => .ok s
  | none => .error .unknownScheme

def KeyType.ofText (text : String) : Except LabelError KeyType :=
  if h : isKeyLabel text = true then .ok ⟨text, h⟩ else .error (.invalidKeyType text)

/-! ## Bindings -/

/-- A keystore role together with the scheme that it requires. -/
structure Binding where
  scheme : Scheme
  keyType : KeyType
  deriving DecidableEq

/-- A binding as text: scheme, slash, key type. -/
def Binding.name (b : Binding) : String := b.scheme.name ++ "/" ++ b.keyType.label

/-- Schemes of one generation pass when nothing else is configured. -/
def defaultSchemes : List Scheme := [.sr25519, .sr25519, .sr25519, .ed25519]

/-- Bindings in order of priority when nothing else is configured. -/
def defaultBindings : List Binding :=
  [⟨.sr25519, ⟨"babe", by decide⟩⟩, ⟨.ed25519, ⟨"gran", by decide⟩⟩,
    ⟨.sr25519, ⟨"imon", by decide⟩⟩, ⟨.sr25519, ⟨"audi", by decide⟩⟩]

end ValidatorKeys
