import ValidatorKeys.Toml.Quoted
import ValidatorKeys.Toml.Value

/-!
# TOML values on one line

Arrays as `[a, b]` and tables as inline tables.  A date-time that is written by itself stands in an
inline table under a reserved key; inside an array or a table it is written plainly.
-/

namespace ValidatorKeys.Toml

mutual

/-- The text of a value inside an array or a table. -/
def Value.render : Value → List Char
  | .string s => written s.toList
  | .integer n => (toString n).toList
  | .float f => f.text.toList
  | .boolean b => (if b then "true" else "false").toList
  | .dateTime d => d.text.toList
  | .array [] => ['[', ']']
  | .array (v :: vs) => '[' :: v.render ++ renderItems vs ++ [']']
  | .table [] => ['\x7b', '\x7d']
  | .table ((k, v) :: fs) =>
    ['\x7b', ' '] ++ writtenKey k.toList ++ [' ', '=', ' '] ++ v.render ++ renderFields fs ++
      [' ', '\x7d']

/-- The further items of an array, each behind a comma. -/
def renderItems : List Value → List Char
  | [] => []
  | v :: vs => [',', ' '] ++ v.render ++ renderItems vs

/-- The further fields of a table, each behind a comma. -/
def renderFields : List (String × Value) → List Char
  | [] => []
  | (k, v) :: fs =>
    [',', ' '] ++ writtenKey k.toList ++ [' ', '=', ' '] ++ v.render ++ renderFields fs

end

/-- The key under which a date-time that stands by itself is written. -/
def dateTimeKey : String := "$__toml_private_datetime"

/-- The text of a value that stands by itself. -/
def Value.text : Value → List Char
  | .dateTime d =>
    ['\x7b', ' '] ++ writtenKey dateTimeKey.toList ++ [' ', '=', ' '] ++ written d.text.toList ++
      [' ', '\x7d']
  | v => v.render

end ValidatorKeys.Toml
