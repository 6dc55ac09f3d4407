import ValidatorKeys.Key.Selection
import ValidatorKeys.Provision.KeyFile
import ValidatorKeys.Key.Password
import ValidatorKeys.Report.Basic

/-!
# Insertion pass

For each binding in turn a token is selected from the lines of the key file and the node is asked to
insert a key under the key type, with the password on standard input.  A binding without a token is
skipped.  A token counts as consumed before its command is issued.
-/

namespace ValidatorKeys

/-- Inserts a key for each binding that has a token, starting from the tokens consumed before. -/
def insertKeys {σ : Type} (r : Runner σ) (node payload : String) (policy : ConflictPolicy)
    (lines : List (List Char)) :
    List Binding → Consumed → Run σ PassError (InsertReport × Consumed)
  | [], consumed => pure ({}, consumed)
  | b :: rest, consumed =>
    match selectToken lines b.scheme consumed policy with
    | none => do
      Run.note (.keyMissing b)
      let (report, consumed) ← insertKeys r node payload policy lines rest consumed
      pure ({ report with skipped := b :: report.skipped }, consumed)
    | some token => do
      Run.note (.keyInserting b token.fingerprint)
      let _ ← Run.command r (insertCommand node b) payload
      let (report, consumed) ← insertKeys r node payload policy lines rest (consumed.insert token)
      pure ({ report with inserted := ⟨b.scheme, b.keyType, token.fingerprint⟩ :: report.inserted },
        consumed)

/-- One insertion pass from lines that were read before. -/
def insertLines {σ : Type} (r : Runner σ) (node : String) (policy : ConflictPolicy)
    (password : Password) (lines : List (List Char)) (bindings : List Binding)
    (consumed : Consumed) : Run σ PassError (InsertReport × Consumed) :=
  insertKeys r node password.payload policy lines bindings consumed

/-- One insertion pass from the key file at a path, with no token consumed before. -/
def insertionPass {σ : Type} (r : Runner σ) (cwd node : String) (policy : ConflictPolicy)
    (password : Password) (path : String) (bindings : List Binding) :
    Run σ PassError InsertReport := do
  let lines ← Run.mapError .keyFile (Run.onFiles fun t => KeyFile.readLines t cwd path)
  let (report, consumed) ← insertLines r node policy password lines bindings {}
  Run.note (.insertionComplete consumed.size)
  pure report

end ValidatorKeys
