import ValidatorKeys.Toml.Document
import ValidatorKeys.Toml.Printer

/-!
# The reserved key of date-times

A table whose first key is the reserved one stands for a date-time: the one that its string spells.
This is how a date-time that was written by itself is read again.  The table of the document itself
is never taken for one.
-/

namespace ValidatorKeys.Toml

/-- The date-time that a text spells. -/
def dateTimeOfText? (s : List Char) : Option DateTime :=
  if startsDate s || startsTime s then
    match readDateTime s with
    | some (d, []) => some d
    | _ => none
  else none

mutual

/-- The value with date-times in the place of the tables that stand for them. -/
def Value.withDateTimes? : Value → Option Value
  | .array vs => (itemsWithDateTimes? vs).map .array
  | .table [] => some (.table [])
  | .table ((k, v) :: fs) =>
    if k = dateTimeKey then
      match v with
      | .string s => (dateTimeOfText? s.toList).map .dateTime
      | _ => none
    else
      match v.withDateTimes?, fieldsWithDateTimes? fs with
      | some v, some fs => some (.table ((k, v) :: fs))
      | _, _ => none
  | v => some v

def itemsWithDateTimes? : List Value → Option (List Value)
  | [] => some []
  | v :: vs =>
    match v.withDateTimes?, itemsWithDateTimes? vs with
    | some v, some vs => some (v :: vs)
    | _, _ => none

def fieldsWithDateTimes? : List (String × Value) → Option (List (String × Value))
  | [] => some []
  | (k, v) :: fs =>
    match v.withDateTimes?, fieldsWithDateTimes? fs with
    | some v, some fs => some ((k, v) :: fs)
    | _, _ => none

end

def parseWithDateTimes? (text : List Char) : Option Table := do
  let table ← parse? text
  fieldsWithDateTimes? table

end ValidatorKeys.Toml
