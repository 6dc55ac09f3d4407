import ValidatorKeys.Toml.Value

/-!
# Tables under construction

A document defines its tables bit by bit.  A section is a table in the making: its fields so far,
whether it was only mentioned on the way to another table (`implicit`), and whether a dotted key
made it (`dotted`).  No key is ever defined twice:

- a dotted key goes through implicit tables only, and ends in a table that a dotted key made when
  it has more than one part;
- a header names a table that is not there, or one that was only mentioned by other headers; such a
  table moves behind the other fields of its parent;
- a header of an array adds a table to an array that headers made, or starts one.

On the way to their end all of them go through the last table of an array.
-/

namespace ValidatorKeys.Toml

/-- What a field of a section holds: a finished value, a section, or the tables of an array. -/
inductive Entry where
  | value (v : Value)
  | table (implicit dotted : Bool) (fields : List (String × Entry))
  | tables (elements : List (List (String × Entry)))

/-- A table in the making. -/
structure Section where
  implicit : Bool := false
  dotted : Bool := false
  fields : List (String × Entry) := []

namespace Section

def get? (s : Section) (key : String) : Option Entry :=
  (s.fields.find? fun f => f.1 == key).map Prod.snd

def push (s : Section) (key : String) (e : Entry) : Section :=
  { s with fields := s.fields ++ [(key, e)] }

def replace (s : Section) (key : String) (e : Entry) : Section :=
  { s with fields := s.fields.map fun f => if f.1 == key then (key, e) else f }

def erase (s : Section) (key : String) : Section :=
  { s with fields := s.fields.filter fun f => f.1 != key }

/-- A section as an entry of its parent. -/
def entry (s : Section) : Entry := .table s.implicit s.dotted s.fields

/-- Changes the section at the end of a path; sections that are not there are made.  With `viaDots`
the path is that of a dotted key. -/
def modify (viaDots : Bool) (f : Section → Option Section) :
    List String → Section → Option Section
  | [], s => f s
  | key :: rest, s =>
    match s.get? key with
    | none => do
      let child ← modify viaDots f rest { implicit := true, dotted := viaDots }
      some (s.push key child.entry)
    | some (.value _) => none
    | some (.table implicit dotted fields) =>
      if viaDots && !implicit then none
      else do
        let child ← modify viaDots f rest ⟨implicit, dotted, fields⟩
        some (s.replace key child.entry)
    | some (.tables elements) =>
      match elements.getLast? with
      | none => none
      | some last => do
        let child ← modify viaDots f rest { fields := last }
        some (s.replace key (.tables (elements.dropLast ++ [child.fields])))

/-- Defines a dotted key: the parts in front of the last, the last part, and the value. -/
def define (path : List String) (key : String) (v : Value) : Section → Option Section :=
  modify true
    (fun s =>
      if s.dotted = path.isEmpty then none
      else if (s.get? key).isSome then none
      else some (s.push key (.value v)))
    path

def openTable (path : List String) (key : String) : Section → Option Section :=
  modify false
    (fun s =>
      match s.get? key with
      | none => some (s.push key (.table false false []))
      | some (.table true false fields) => some ((s.erase key).push key (.table false false fields))
      | some _ => none)
    path

/-- Opens the next table of an array. -/
def openElement (path : List String) (key : String) : Section → Option Section :=
  modify false
    (fun s =>
      match s.get? key with
      | none => some (s.push key (.tables [[]]))
      | some (.tables elements) => some (s.replace key (.tables (elements ++ [[]])))
      | some _ => none)
    path

end Section

/-! ## Finished values -/

mutual

def Entry.toValue : Entry → Value
  | .value v => v
  | .table _ _ fields => .table (finishFields fields)
  | .tables elements => .array (finishElements elements)

def finishFields : List (String × Entry) → List (String × Value)
  | [] => []
  | (k, e) :: r => (k, e.toValue) :: finishFields r

def finishElements : List (List (String × Entry)) → List Value
  | [] => []
  | e :: r => .table (finishFields e) :: finishElements r

end

def Section.toTable (s : Section) : Table := finishFields s.fields

end ValidatorKeys.Toml
