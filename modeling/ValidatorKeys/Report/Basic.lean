import ValidatorKeys.Key.Scheme

/-!
# Reports

What a run leaves to print.  Keys appear by fingerprint only.  A pass of generation lists the keys
it recorded and the schemes without a seed line; a pass of insertion the keys it inserted and the
bindings without a key; a round holds either pass or both.

    insertedCount = keys inserted over all rounds
    skippedCount  = schemes and bindings skipped over all rounds
-/

namespace ValidatorKeys

/-- A key written to the key file, with its fingerprint when its line holds a token. -/
structure GeneratedKey where
  scheme : Scheme
  fingerprint : Option String
  deriving DecidableEq

/-- Result of a generation pass. -/
structure GenerateReport where
  generated : List GeneratedKey := []
  skipped : List Scheme := []
  deriving DecidableEq

/-- A key put into the node's keystore. -/
structure InsertedKey where
  scheme : Scheme
  keyType : KeyType
  fingerprint : String
  deriving DecidableEq

/-- Result of an insertion pass. -/
structure InsertReport where
  inserted : List InsertedKey := []
  skipped : List Binding := []
  deriving DecidableEq

/-- One round: a generation pass, an insertion pass, or both. -/
structure RoundReport where
  round : Nat
  generate : Option GenerateReport := none
  insert : Option InsertReport := none
  deriving DecidableEq

/-- Result of a run. -/
structure Report where
  built : Bool := false
  rounds : List RoundReport := []
  deriving DecidableEq

namespace RoundReport

def insertedCount (r : RoundReport) : Nat :=
  match r.insert with
  | some i => i.inserted.length
  | none => 0

def skippedCount (r : RoundReport) : Nat :=
  (match r.generate with
    | some g => g.skipped.length
    | none => 0) +
  match r.insert with
    | some i => i.skipped.length
    | none => 0

end RoundReport

namespace Report

def insertedCount (r : Report) : Nat := (r.rounds.map RoundReport.insertedCount).foldr (· + ·) 0

/-- Schemes and bindings skipped over all rounds. -/
def skippedCount (r : Report) : Nat := (r.rounds.map RoundReport.skippedCount).foldr (· + ·) 0

end Report

end ValidatorKeys
