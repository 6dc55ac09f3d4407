import ValidatorKeys.Shell.Arithmetic
import ValidatorKeys.Shell.Field
import ValidatorKeys.Shell.Frame

/-!
# Expansion of words

Each piece of a word gives cells.  What a command prints is put in its place without the line feeds
at its end; it is captured by the `capture` that is handed in, which stands for scripts of any
depth.

    expandWord capture full w   = the cells of w
    fieldsOf capture w          = the arguments that w makes of a command
    textOf capture w            = the text of w where it makes exactly one
-/

namespace ValidatorKeys.Shell

open Kernel (Bytes Work)

/-! ## Parameters -/

/-- The number that decimal digits spell. -/
def decimal (ds : Bytes) : Nat := ds.foldl (fun n c => 10 * n + (c.toNat - 48)) 0

/-- The value of a parameter. -/
def parameterValue? (f : Frame) (name : Bytes) : Option Bytes :=
  match name with
  | ['?'] => some f.status.repr.toList
  | ['#'] => some f.arguments.length.repr.toList
  | ['$'] => some f.shell.repr.toList
  | ['0'] => some f.name
  | ['!'] => f.background.map fun n => n.repr.toList
  | name =>
    if !name.isEmpty && name.all Char.isDigit then
      let k := decimal name
      if k = 0 then some f.name else f.arguments[k - 1]?
    else f.get? name

/-- What a parameter gives: one value, or those of several. -/
inductive Subject where
  | one (value : Option Bytes)
  | many (values : List Bytes) (joined : Bool)

def Subject.of (f : Frame) : Bytes → Subject
  | ['@'] => .many f.arguments false
  | ['*'] => .many f.arguments true
  | name => .one (parameterValue? f name)

/-- The text between values that are joined. -/
def joint (f : Frame) : Bytes := f.separators.take 1

/-- The values of a subject as one text. -/
def Subject.text? (f : Frame) : Subject → Option Bytes
  | .one value => value
  | .many values _ => some (List.intercalate (joint f) values)

def Subject.isPresent (colon : Bool) (f : Frame) : Subject → Bool
  | .one none => false
  | .one (some s) => !(colon && s.isEmpty)
  | .many values joined =>
    !colon || (!values.isEmpty && (Subject.text? f (.many values joined) != some []))

/-- The cells of a subject; `full` tells that several values may make several fields. -/
def Subject.cells (f : Frame) (full inQuotes : Bool) : Subject → List Cell
  | .one value => Cell.ofExpansion inQuotes (value.getD [])
  | .many values joined =>
    if full && inQuotes && !joined then
      List.intercalate [.gap] (values.map (Cell.ofExpansion true))
    else if full && !inQuotes then
      .seam :: Cell.ofText .expanded (List.intercalate [Cell.between] values)
    else Cell.ofExpansion inQuotes (List.intercalate (joint f) values)

def cutMatch (suffix longest : Bool) (items : List PatternItem) (s : Bytes) : Bytes :=
  let lengths := List.range (s.length + 1)
  let order := if longest then lengths.reverse else lengths
  let found := order.find? fun k =>
    if suffix then Pattern.isMatch items (s.drop (s.length - k))
    else Pattern.isMatch items (s.take k)
  match found with
  | some k => if suffix then s.take (s.length - k) else s.drop k
  | none => s

/-! ## Arithmetic -/

/-- The number that a variable holds; one that is unset or empty holds zero. -/
def variableNumber (f : Frame) (name : Bytes) : Except Arithmetic.Fault Int :=
  match f.get? name with
  | none => .ok 0
  | some [] => .ok 0
  | some s =>
    match Arithmetic.numberOf? 0 s with
    | some k => .ok k
    | none => .error (.illegalNumber s)

def arithmeticComplaint (expression : Bytes) : Arithmetic.Fault → Bytes
  | .illegalNumber s => "Illegal number: ".toList ++ s
  | fault =>
    let cause := match fault with
      | .expectingPrimary => "expecting primary"
      | .expectingEnd => "expecting EOF"
      | .expectingParenthesis => "expecting ')'"
      | .expectingColon => "expecting ':'"
      | _ => "division by zero"
    "arithmetic expression: ".toList ++ cause.toList ++ ": \"".toList ++ expression ++ ['"']

/-- The value of an expression; what it assigns is done. -/
def evaluate (expression : Bytes) : Act Int := do
  match Arithmetic.evaluate (variableNumber (← get)) expression with
  | .ok (k, assigned) => do
    assigned.forM fun (name, n) => assignText name (toString n).toList
    pure k
  | .error fault => abort (arithmeticComplaint expression fault)

/-! ## Pieces -/

/-- Whether letters of a word are kept whole by quotes in an expansion. -/
def argumentOrigin (inQuotes : Bool) : Origin := if inQuotes then .quoted else .expanded

/-- The home directory that a tilde with a name stands for. -/
def homeOf (f : Frame) (name : Bytes) : Option Bytes :=
  if name.isEmpty then f.named? "HOME"
  else if name = "root".toList then some "/root".toList
  else none

/-- A literal text at the start of a word, or behind a colon of an assignment, with its tilde
replaced.  `alone` tells that nothing but the text belongs to the word. -/
def expandTilde (f : Frame) (origin : Origin) (assigned alone : Bool) (s : Bytes) : List Cell :=
  match s with
  | '~' :: r =>
    let ends (c : Char) : Bool := c = '/' || (assigned && c = ':')
    let name := r.takeWhile fun c => !ends c
    let rest := r.drop name.length
    if rest.isEmpty && !alone then Cell.ofText origin s
    else
      match homeOf f name with
      | some home => .held :: Cell.ofText .quoted home ++ Cell.ofText origin rest
      | none => Cell.ofText origin s
  | s => Cell.ofText origin s

def colonParts : Bytes → List Bytes
  | [] => [[]]
  | c :: r =>
    match colonParts r with
    | [] => [[c]]
    | p :: ps => if c = ':' then [c] :: p :: ps else (c :: p) :: ps

/-- A word with tildes at its start, and behind colons where it is assigned, replaced by cells. -/
def withTildes (f : Frame) (origin : Origin) (assigned : Bool) (w : Word) :
    List (List Cell ⊕ Piece) :=
  let literal (first alone : Bool) (s : Bytes) : List Cell :=
    if assigned then
      let parts := colonParts s
      (parts.zip (List.range parts.length)).flatMap fun (p, i) =>
        if i = 0 && !first then Cell.ofText origin p
        else expandTilde f origin true (alone || i + 1 < parts.length) p
    else if first then expandTilde f origin false alone s
    else Cell.ofText origin s
  let rec go (first : Bool) : Word → List (List Cell ⊕ Piece)
    | [] => []
    | .literal s :: rest => .inl (literal first rest.isEmpty s) :: go false rest
    | p :: rest => .inr p :: go false rest
  go true w

section

variable (capture : Statement → Act Bytes)

/-- How the words of an expansion are expanded: whether several values may make several fields. -/
structure Manner where
  full : Bool := false

mutual

def expandArgument (manner : Manner) (inQuotes : Bool) (w : Word) : Nat → Act (List Cell)
  | 0 => pure []
  | n + 1 => do
    let f ← get
    let origin := argumentOrigin inQuotes
    let parts := if inQuotes then w.map Sum.inr else withTildes f origin false w
    let cells ← parts.mapM fun p =>
      match p with
      | .inl cells => pure (.seam :: cells)
      | .inr (.literal s) => pure (.seam :: Cell.ofText origin s)
      | .inr p => expandPiece manner p n
    pure cells.flatten

/-- The pattern that a word within an expansion makes. -/
def argumentPattern (w : Word) : Nat → Act (List PatternItem)
  | 0 => pure []
  | n + 1 => do
    pure (Pattern.read (Cell.toMarked (← expandArgument {} false w n)))

def expandParameter (manner : Manner) (name : Bytes) (form : Form) (argument : Word)
    (inQuotes : Bool) : Nat → Act (List Cell)
  | 0 => pure []
  | n + 1 => do
    let f ← get
    let subject := Subject.of f name
    let shown (s : Subject) : List Cell := s.cells f manner.full inQuotes
    let held (cells : List Cell) : List Cell := if inQuotes then .held :: cells else cells
    let needed : Act Unit := do
      let special := name = ['@'] ∨ name = ['*']
      if f.has "nounset" && !special && !subject.isPresent false f then
        abort (name ++ ": parameter not set".toList)
    match form with
    | .malformed => abort "Bad substitution".toList
    | .plain => do
      needed
      pure (shown subject)
    | .length => do
      needed
      pure (Cell.ofExpansion inQuotes ((subject.text? f).getD []).length.repr.toList)
    | .fallback colon =>
      if subject.isPresent colon f then pure (shown subject)
      else do pure (held (← expandArgument manner inQuotes argument n))
    | .instead colon =>
      if subject.isPresent colon f then do
        pure (held (← expandArgument manner inQuotes argument n))
      else pure (held [])
    | .assign colon =>
      if subject.isPresent colon f then pure (shown subject)
      else do
        let text := Cell.toText (← expandArgument {} inQuotes argument n)
        if !isName name then abort (name ++ ": bad variable name".toList)
        assignText name text
        pure (shown (.one (some text)))
    | .require colon =>
      if subject.isPresent colon f then pure (shown subject)
      else do
        let text := Cell.toText (← expandArgument {} inQuotes argument n)
        abort (name ++ ": ".toList ++
          if !argument.isEmpty then text
          else if colon then "parameter not set or null".toList
          else "parameter not set".toList)
    | .cut suffix longest => do
      needed
      let items ← argumentPattern argument n
      pure (shown (.one (some (cutMatch suffix longest items ((subject.text? f).getD [])))))

def expandPiece (manner : Manner) (piece : Piece) : Nat → Act (List Cell)
  | 0 => pure []
  | n + 1 => do
    match piece with
    | .literal s => pure (Cell.ofText .literal s)
    | .quoted s => pure (.held :: Cell.ofText .quoted s)
    | .parameter name form argument inQuotes =>
      expandParameter manner name form argument inQuotes n
    | .output body inQuotes => do
      let text ← capture body
      pure (Cell.ofExpansion inQuotes text)
    | .value expression inQuotes => do
      let text := Cell.toText (← expandArgument {} true expression n)
      let k ← evaluate text
      pure (Cell.ofExpansion inQuotes (toString k).toList)

end

def nestingLimit : Nat := 2000

/-- The cells of a word.  Tildes at its start, and behind colons where it is assigned, stand for home
directories. -/
def expandWord (manner : Manner) (assigned : Bool) (w : Word) : Act (List Cell) := do
  let f ← get
  let cells ← (withTildes f .literal assigned w).mapM fun p =>
    match p with
    | .inl cells => pure cells
    | .inr p => expandPiece capture manner p nestingLimit
  pure cells.flatten

/-- The fields of cells, names for patterns. -/
def resolveCells (cells : List Cell) : Act (List Bytes) := do
  let f ← get
  let fields := Cell.fields f.separators none false cells
  if f.has "noglob" || !(fields.any Pattern.isActive) then pure (fields.map plainText)
  else
    work (Work.onFiles fun t cwd => fields.flatMap (resolveField t cwd))

def fieldsOf (w : Word) : Act (List Bytes) := do
  resolveCells (← expandWord capture { full := true } false w)

/-- The text of a word where it makes exactly one. -/
def textOf (w : Word) : Act Bytes := do pure (Cell.toText (← expandWord capture {} false w))

/-- The text of a word that is assigned. -/
def assignedText (w : Word) : Act Bytes := do pure (Cell.toText (← expandWord capture {} true w))

def patternOf (w : Word) : Act (List PatternItem) := do
  pure (Pattern.read (Cell.toMarked (← expandWord capture {} false w)))

def documentText (w : Word) : Act Bytes := do
  pure (Cell.toText (← expandArgument capture {} true w nestingLimit))

end

end ValidatorKeys.Shell
