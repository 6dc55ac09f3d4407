import ValidatorKeys.Digest.Sha256
import ValidatorKeys.Text.Blank

/-!
# Secret tokens

A token is a word that starts with `0x` and goes on after it.  Tokens are compared as text; what is
shown of one is its fingerprint, the first twelve hex digits of its SHA-256 digest.

    extract line = the first word of the line that is a token
-/

namespace ValidatorKeys

/-! ## Algorithm -/

/-- Whether a text starts with `0x` and has at least one character more. -/
def isTokenText : List Char → Bool
  | '0' :: 'x' :: _ :: _ => true
  | _ => false

/-- A secret seed as it stands in a line of node output. -/
structure Token where
  text : List Char
  valid : isTokenText text = true
  deriving DecidableEq

namespace Token

/-- The token with this text, if it is the text of one. -/
def ofText? (text : List Char) : Option Token :=
  if h : isTokenText text = true then some ⟨text, h⟩ else none

/-- What is shown of a token: twelve hex digits of its digest. -/
def fingerprint (t : Token) : String :=
  String.ofList ((Digest.Sha256.hexDigest (String.ofList t.text).toUTF8.data.toList).take 12)

/-- A token as it is shown in diagnostics. -/
def shown (t : Token) : String := "SecretToken(" ++ t.fingerprint ++ ")"

/-- The first word of a line that is a token. -/
def extract (line : List Char) : Option Token := (Text.words line).findSome? ofText?

end Token

end ValidatorKeys
