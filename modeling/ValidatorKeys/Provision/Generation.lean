import ValidatorKeys.Provision.KeyFile
import ValidatorKeys.Key.Password
import ValidatorKeys.Report.Basic

/-!
# Generation pass

For each scheme in turn the node is asked for a key, with the password on standard input.  The seed
line that it prints goes to the key file under the name of the scheme; output without one is
skipped.  The file is emptied before the first command, and each record is written as soon as its
command has answered.
-/

namespace ValidatorKeys

/-- Asks for a key of each scheme and adds the seed lines to an open key file. -/
def generateKeys {σ : Type} (r : Runner σ) (node payload : String) :
    KeyWriter → List Scheme → Run σ PassError (GenerateReport × KeyWriter)
  | w, [] => pure ({}, w)
  | w, s :: rest => do
    let output ← Run.command r (generateCommand node s) payload
    match SeedLine.find output.toList with
    | some line =>
      let w ← Run.changeFiles fun t => KeyFile.append t w ⟨s, line⟩
      let fingerprint := (Token.extract line).map Token.fingerprint
      Run.note (.keyGenerated s fingerprint)
      let (report, w) ← generateKeys r node payload w rest
      pure ({ report with generated := ⟨s, fingerprint⟩ :: report.generated }, w)
    | none =>
      Run.note (.seedMissing s)
      let (report, w) ← generateKeys r node payload w rest
      pure ({ report with skipped := s :: report.skipped }, w)

/-- One generation pass into the key file at a path. -/
def generationPass {σ : Type} (r : Runner σ) (cwd node : String) (password : Password)
    (path : String) (schemes : List Scheme) : Run σ PassError GenerateReport := do
  let w ← Run.changeFiles fun t => KeyFile.create t cwd path
  let (report, w) ← generateKeys r node password.payload w schemes
  Run.note (.keyFileWritten path w.written)
  pure report

end ValidatorKeys
