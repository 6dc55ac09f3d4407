import ValidatorKeys.Key.SeedLine

/-!
# Which token a binding receives

A pass over the bindings keeps the tokens that it has handed out.  A binding takes a token from the
lines of its scheme that has not been handed out yet: under `advance` the first such token of all
those lines, under `firstMatchOnly` that of the first of those lines or none.

    candidates lines s = what `Token.extract` finds in each line labelled `s`, in order
-/

namespace ValidatorKeys

/-! ## Consumed tokens -/

/-- The tokens handed out so far, each once, in order. -/
structure Consumed where
  tokens : List Token := []
  deriving DecidableEq

namespace Consumed

/-- Whether a token was handed out. -/
def contains (c : Consumed) (t : Token) : Bool := t ∈ c.tokens

/-- Marks a token as handed out; one that was so already keeps its place. -/
def insert (c : Consumed) (t : Token) : Consumed :=
  if c.contains t then c else ⟨c.tokens ++ [t]⟩

/-- Number of tokens handed out. -/
def size (c : Consumed) : Nat := c.tokens.length

/-- Whether no token was handed out. -/
def isEmpty (c : Consumed) : Bool := c.tokens.isEmpty

theorem tokens_insert_of_not_mem (c : Consumed) (t : Token) (h : t ∉ c.tokens) :
    (c.insert t).tokens = c.tokens ++ [t] := by
  simp [insert, contains, h]

theorem mem_tokens_insert (c : Consumed) (t u : Token) :
    u ∈ (c.insert t).tokens ↔ u ∈ c.tokens ∨ u = t := by
  unfold insert contains
  by_cases h : t ∈ c.tokens
  · simp only [h, decide_true, if_true]
    constructor
    · exact Or.inl
    · rintro (hu | rfl)
      · exact hu
      · exact h
  · simp [h]

end Consumed

/-! ## Selection -/

/-- How a binding reacts when the first line of its scheme is spent. -/
inductive ConflictPolicy where
  | advance
  | firstMatchOnly
  deriving Repr, DecidableEq

namespace ConflictPolicy

/-- The name of a policy, as it is configured. -/
def name : ConflictPolicy → String
  | .advance => "advance"
  | .firstMatchOnly => "first-match-only"

def ofName? (text : String) : Option ConflictPolicy :=
  [ConflictPolicy.advance, .firstMatchOnly].find? fun p => p.name == text

end ConflictPolicy

/-- The tokens of the lines of a scheme, one entry for each such line. -/
def candidates (lines : List (List Char)) (s : Scheme) : List (Option Token) :=
  (lines.filter fun line => s.label.isPrefixOf line).map Token.extract

/-- The token that a binding of the scheme receives. -/
def selectToken (lines : List (List Char)) (s : Scheme) (consumed : Consumed) :
    ConflictPolicy → Option Token
  | .advance => (candidates lines s).findSome? fun t? => t?.filter fun t => !consumed.contains t
  | .firstMatchOnly =>
    (candidates lines s).head?.bind fun t? => t?.filter fun t => !consumed.contains t

end ValidatorKeys
