import ValidatorKeys.CommandLine.Invocation
import ValidatorKeys.CommandLine.ValuePattern
import ValidatorKeys.Provision.Notice
import ValidatorKeys.Text.Alphanumeric
import ValidatorKeys.Text.Blank

/-!
# Which log entries are shown

The flags choose a level; the variable `RUST_LOG`, where it can be read, overrides them.  It lists
directives with commas between, each of which may name a target, a span with fields, and a level:

    level        target        target=level        target[span]=level        [{field}]=level

A directive that names no span and asks for no value decides about the entries whose target begins
with its own and which have all of its fields.  Of those directives the most specific one counts:
the one with the longest target, and among these the one with the most fields.  Entries of this
tool are in no span, so that a directive that names one shows nothing.
-/

namespace ValidatorKeys.CommandLine

/-! ## Directives -/

/-- A level or nothing at all. -/
abbrev Threshold := Option LogLevel

/-- A directive: which entries it is about, and up to which level they are shown. -/
structure LogDirective where
  target : Option String := none
  inSpan : Bool := false
  fields : List (String × Bool) := []
  level : Threshold := some .debug
  deriving Repr, DecidableEq

/-- How far the reading of a directive has come; numbers are offsets at which a part begins. -/
inductive DirectiveState where
  | start
  | levelOrTarget (start : Nat)
  | span (start : Nat)
  | field (start : Nat)
  | fields
  | target
  | level (start : Nat)
  deriving Repr, DecidableEq

namespace LogDirective

/-- The number that decimal digits spell, with a plus in front if there is one. -/
def number? (s : List Char) : Option Nat :=
  let digits := match s with
    | '+' :: r => r
    | r => r
  if digits.isEmpty || !digits.all Char.isDigit then none
  else some (digits.foldl (fun n c => 10 * n + (c.toNat - 48)) 0)

/-- The level that a text names: a number up to five, or a word of either case.  The outer `none`
says that it names none. -/
def threshold? (s : List Char) : Option Threshold :=
  match number? s, (String.ofList s).toLower with
  | some 0, _ => some none
  | some 1, _ => some (some .error)
  | some 2, _ => some (some .warn)
  | some 3, _ => some (some .info)
  | some 4, _ => some (some .debug)
  | some 5, _ => some (some .debug)
  | _, "off" => some none
  | _, "error" => some (some .error)
  | _, "warn" => some (some .warn)
  | _, "info" => some (some .info)
  | _, "debug" => some (some .debug)
  | _, "trace" => some (some .debug)
  | _, _ => none

/-- The level behind the equals sign; where nothing stands there, everything is shown. -/
def level? (s : List Char) : Option Threshold := if s.isEmpty then some (some .debug) else threshold? s

/-- The part of a text between two offsets in bytes. -/
def slice (s : List Char) (first last : Nat) : List Char :=
  go 0 s
where
  go (offset : Nat) : List Char → List Char
    | [] => []
    | c :: r =>
      if last ≤ offset then []
      else if first ≤ offset then c :: go (offset + c.utf8Size) r
      else go (offset + c.utf8Size) r

/-- A field, and whether a value is asked of it, which must be one that can be read. -/
def fieldOf? (s : List Char) : Option (String × Bool) :=
  let name := s.takeWhile (· ≠ '=')
  let value := (s.drop (name.length + 1)).takeWhile (· ≠ '=')
  if ValuePattern.isReadable value then some (String.ofList name, s.contains '=') else none

/-- Whether a directive may begin with this character. -/
def mayBegin (c : Char) : Bool := c = '-' || c = ':' || c = '_' || Text.isAlphanumeric c

/-- What a character at an offset does to what has been read; `text` is the whole directive. -/
def advance (text : List Char) (offset : Nat) (c : Char) :
    DirectiveState → LogDirective → Option (DirectiveState × LogDirective)
  | .start, d =>
    if c = '[' then some (.span (offset + 1), d)
    else if mayBegin c then some (.levelOrTarget offset, d)
    else none
  | .levelOrTarget start, d =>
    let target := some (String.ofList (slice text start offset))
    if c = '=' then some (.level (offset + 1), { d with target := target })
    else if c = '[' then some (.span (offset + 1), { d with target := target })
    else some (.levelOrTarget start, d)
  | .span start, d =>
    if c = ']' then some (.target, { d with inSpan := true })
    else if c = '\x7b' then
      some (.field (offset + 1), { d with inSpan := !(slice text start offset).isEmpty })
    else some (.span start, d)
  | .field start, d =>
    if c = '\x7d' then
      let field := slice text start offset
      if field.isEmpty then none
      else (fieldOf? field).map fun f => (.fields, { d with fields := d.fields ++ [f] })
    else some (.field start, d)
  | .fields, d => if c = ']' then some (.target, d) else none
  | .target, d => if c = '=' then some (.level (offset + 1), d) else none
  | .level start, d => some (.level start, d)

/-- Reads characters from an offset on. -/
def readFrom (text : List Char) : Nat → DirectiveState → LogDirective → List Char →
    Option (DirectiveState × LogDirective)
  | _, st, d, [] => some (st, d)
  | offset, st, d, c :: r =>
    match advance text offset c st d with
    | some (st, d) => readFrom text (offset + c.utf8Size) st d r
    | none => none

/-- The directive that a text spells.  Blanks around it are not read, and parts are cut from the
text at the offsets found without them. -/
def ofText? (s : List Char) : Option LogDirective :=
  match readFrom s 0 .start {} (Text.trim s) with
  | some (.levelOrTarget start, d) =>
    let rest := s.drop start
    match level? rest with
    | some level => some { d with level := level }
    | none => some { d with target := some (String.ofList rest) }
  | some (.level start, d) =>
    (level? (slice s start (String.ofList s).utf8ByteSize)).map fun level =>
      { d with level := level }
  | some (.target, d) => some d
  | _ => none

/-- Whether a directive can decide about an entry without knowing its span and its values. -/
def isStatic (d : LogDirective) : Bool := !d.inSpan && !d.fields.any Prod.snd

/-- The names of the fields. -/
def fieldNames (d : LogDirective) : List String := d.fields.map Prod.fst

/-- Whether a directive is about an entry. -/
def applies (d : LogDirective) (e : LogEntry) : Bool :=
  ((d.target.getD "").toList.isPrefixOf e.target.toList) && d.fieldNames.all e.hasField

/-- Length of the target in bytes, one more than that where there is a target at all. -/
def targetWeight (d : LogDirective) : Nat :=
  match d.target with
  | some t => t.utf8ByteSize + 1
  | none => 0

/-- Whether two directives are about the same entries. -/
def sameScope (d e : LogDirective) : Bool := d.target == e.target && d.fieldNames == e.fieldNames

/-- Whether one directive goes before another: it is more specific, or later in the order of
letters. -/
def precedes (d e : LogDirective) : Bool :=
  let key (d : LogDirective) : Nat × Nat := (d.targetWeight, d.fields.length)
  if key d = key e then
    if d.target = e.target then e.fieldNames < d.fieldNames
    else e.target.getD "" < d.target.getD ""
  else e.targetWeight < d.targetWeight ||
    (e.targetWeight == d.targetWeight && e.fields.length < d.fields.length)

end LogDirective

/-! ## Filters -/

def directives? (s : String) : Option (List LogDirective) :=
  ((Text.splitAt ',' s.toList).filter fun d => !d.isEmpty).mapM LogDirective.ofText?

/-- Puts a directive before those that it precedes; it takes the place of one with its scope. -/
def insertDirective (d : LogDirective) : List LogDirective → List LogDirective
  | [] => [d]
  | e :: rest =>
    if d.sameScope e then d :: rest
    else if d.precedes e then d :: e :: rest
    else e :: insertDirective d rest

/-- The directives that decide, in the order in which they are asked. -/
def inOrder (ds : List LogDirective) : List LogDirective :=
  (ds.filter LogDirective.isStatic).foldl (fun found d => insertDirective d found) []

def flagLevel (quiet : Bool) (verbosity : Nat) : LogLevel :=
  if quiet then .error
  else if verbosity = 0 then .warn
  else if verbosity = 1 then .info
  else .debug

/-- The directives of an invocation: those of the variable, or else the level of the flags.  A
variable that lists none asks for errors. -/
def logFilter (setting? : Option String) (quiet : Bool) (verbosity : Nat) : List LogDirective :=
  match setting?.bind directives? with
  | some [] => [{ level := some .error }]
  | some ds => inOrder ds
  | none => [{ level := some (flagLevel quiet verbosity) }]

def shows (filter : List LogDirective) (e : LogEntry) : Bool :=
  match filter.find? fun d => d.applies e with
  | some d =>
    match d.level with
    | some level => e.level.rank ≤ level.rank
    | none => false
  | none => false

end ValidatorKeys.CommandLine
