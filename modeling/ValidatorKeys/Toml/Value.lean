import ValidatorKeys.Decimal.Binary64
import ValidatorKeys.Toml.DateTime

/-!
# TOML values

The values of a TOML document.  A table keeps its keys in the order in which they were defined; it
is looked up by the first field with the key.
-/

namespace ValidatorKeys.Toml

inductive Value where
  | string (text : String)
  | integer (value : Int)
  | float (value : Binary64)
  | boolean (value : Bool)
  | dateTime (value : DateTime)
  | array (items : List Value)
  | table (fields : List (String × Value))

abbrev Table := List (String × Value)

/-- The value of a key. -/
def Table.get? (t : Table) (key : String) : Option Value :=
  (t.find? fun f => f.1 == key).map Prod.snd

def Table.keys (t : Table) : List String := t.map Prod.fst

end ValidatorKeys.Toml
