import ValidatorKeys.Report.Basic
import ValidatorKeys.Text.Styled

/-!
# Reports for the terminal

One block of lines for each round, a rule, and a line with the totals.  Every line ends with a line
feed.
-/

namespace ValidatorKeys

open Text (Style paint)

def GenerateReport.terminalLines (colours : Bool) (r : GenerateReport) : List String :=
  (r.generated.map fun k =>
    "   " ++ paint colours (.coloured .green) "+" ++ " generated " ++ k.scheme.name ++ " " ++
      paint colours .faint (k.fingerprint.getD "(no token)")) ++
  r.skipped.map fun s =>
    "   " ++ paint colours (.strongIn .yellow) "⚠" ++ " " ++ s.name ++
      " output had no secret seed"

def InsertReport.terminalLines (colours : Bool) (r : InsertReport) : List String :=
  (r.inserted.map fun k =>
    "   " ++ paint colours (.coloured .cyan) "→" ++ " " ++
      paint colours .strong k.keyType.label ++ " ← " ++ k.scheme.name ++ " " ++
      paint colours .faint k.fingerprint) ++
  r.skipped.map fun b =>
    "   " ++ paint colours (.strongIn .yellow) "⚠" ++ " " ++
      paint colours .strong b.keyType.label ++ " has no unused " ++ b.scheme.name ++ " key"

/-- The lines of a round: an empty one, its number, and those of its passes. -/
def RoundReport.terminalLines (colours : Bool) (r : RoundReport) : List String :=
  ["", " " ++ paint colours .strong ("Round " ++ r.round.repr)] ++
  (match r.generate with
    | some g => g.terminalLines colours
    | none => []) ++
  match r.insert with
    | some i => i.terminalLines colours
    | none => []

/-- The rule above the totals. -/
def reportRule : String := String.ofList (List.replicate 35 '─')

/-- The line with the totals. -/
def Report.totalsLine (colours : Bool) (r : Report) : String :=
  " " ++ paint colours (.strongIn .green) r.insertedCount.repr ++ " inserted, " ++
    paint colours (if r.skippedCount = 0 then .plain else .strongIn .yellow) r.skippedCount.repr ++
    " skipped"

def Report.terminalLines (colours : Bool) (r : Report) : List String :=
  (if r.built then [" " ++ paint colours (.strongIn .green) "✔" ++ " node binary built"] else []) ++
  r.rounds.flatMap (RoundReport.terminalLines colours) ++
  [paint colours .faint reportRule, r.totalsLine colours]

def Report.terminalText (colours : Bool) (r : Report) : String :=
  String.join ((r.terminalLines colours).map (· ++ "\n"))

end ValidatorKeys
