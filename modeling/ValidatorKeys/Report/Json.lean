import ValidatorKeys.Json.Value
import ValidatorKeys.Report.Basic

/-!
# Reports as JSON

The report and a summary of its counts, with the keys of every object in alphabetical order.  A
pass that a round does not hold is left out; a fingerprint that is not known is `null`.
-/

namespace ValidatorKeys

def GeneratedKey.json (k : GeneratedKey) : Json :=
  .object [("fingerprint", match k.fingerprint with
      | some f => .string f
      | none => .null),
    ("scheme", .string k.scheme.name)]

def GenerateReport.json (r : GenerateReport) : Json :=
  .object [("generated", .array (r.generated.map GeneratedKey.json)),
    ("skipped", .array (r.skipped.map fun s => .string s.name))]

def InsertedKey.json (k : InsertedKey) : Json :=
  .object [("fingerprint", .string k.fingerprint), ("key_type", .string k.keyType.label),
    ("scheme", .string k.scheme.name)]

def Binding.json (b : Binding) : Json :=
  .object [("key_type", .string b.keyType.label), ("scheme", .string b.scheme.name)]

def InsertReport.json (r : InsertReport) : Json :=
  .object [("inserted", .array (r.inserted.map InsertedKey.json)),
    ("skipped", .array (r.skipped.map Binding.json))]

/-- A round, without the passes that it does not hold. -/
def RoundReport.json (r : RoundReport) : Json :=
  .object
    ((match r.generate with
      | some g => [("generate", g.json)]
      | none => []) ++
    (match r.insert with
      | some i => [("insert", i.json)]
      | none => []) ++
    [("round", .number r.round)])

def Report.json (r : Report) : Json :=
  .object [("built", .bool r.built), ("rounds", .array (r.rounds.map RoundReport.json))]

def Report.jsonWithSummary (r : Report) : Json :=
  .object [("report", r.json),
    ("summary", .object [("inserted", .number r.insertedCount),
      ("rounds", .number r.rounds.length), ("skipped", .number r.skippedCount)])]

def Report.jsonText (r : Report) : String := r.jsonWithSummary.pretty

end ValidatorKeys
