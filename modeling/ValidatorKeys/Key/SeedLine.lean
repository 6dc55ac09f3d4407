import ValidatorKeys.Key.Scheme
import ValidatorKeys.Key.Token
import ValidatorKeys.Text.Lines

/-!
# Seed lines and key records

A node that makes a key prints a line that begins with `Secret seed`, among others.  `SeedLine.find`
takes the first such line, trimmed, the label compared without regard to ASCII case.  A record is
a seed line under the name of its scheme; a key file holds one record to a line.

    find output = the first trimmed line whose first eleven characters spell `secret seed`
    Record.line = scheme name, colon, space, seed line
-/

namespace ValidatorKeys

namespace SeedLine

def label : List Char := "secret seed".toList

/-- Whether a line begins with the label, ASCII case ignored. -/
def hasLabel (line : List Char) : Bool := (line.take 11).map Char.toLower == label

/-- The first line of a node's output that carries the label, trimmed. -/
def find (output : List Char) : Option (List Char) :=
  ((Text.lines output).map Text.trim).find? hasLabel

end SeedLine

/-- A seed line with the scheme that it was made for. -/
structure Record where
  scheme : Scheme
  seedLine : List Char
  deriving DecidableEq

namespace Record

def line (r : Record) : List Char := r.scheme.label ++ ' ' :: r.seedLine

/-- The bytes that a record adds to a key file: its line and a line feed. -/
def bytes (r : Record) : ByteArray := (String.ofList (r.line ++ ['\n'])).toUTF8

end Record

end ValidatorKeys
