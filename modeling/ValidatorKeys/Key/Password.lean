/-!
# The keystore password

A password is any text but the empty one.  It is handed to the node on standard input as the text
and a line feed, and shown nowhere.
-/

namespace ValidatorKeys

/-- Password of the node's keystore. -/
structure Password where
  text : String
  nonempty : text ≠ ""
  deriving DecidableEq

namespace Password

def ofText? (text : String) : Option Password :=
  if h : text ≠ "" then some ⟨text, h⟩ else none

/-- What the node reads: the password and a line feed. -/
def payload (p : Password) : String := p.text ++ "\n"

/-- A password as it is shown in diagnostics: the same for every password. -/
def shown (_ : Password) : String := "Password([REDACTED])"

end Password

end ValidatorKeys
