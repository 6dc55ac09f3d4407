/-!
# Styled pieces of terminal output

A styled piece is its text between `ESC[codes m` and `ESC[0m` when colours are on, and the bare text
when they are off.  The codes of bold and dimmed stand before that of the colour.  A reset inside
the text is followed by the codes again, so that the rest of the piece keeps its style.
-/

namespace ValidatorKeys.Text

inductive Colour where
  | red
  | green
  | yellow
  | cyan
  deriving Repr, DecidableEq

def Colour.code : Colour → Nat
  | .red => 31
  | .green => 32
  | .yellow => 33
  | .cyan => 36

/-- How a piece is shown. -/
structure Style where
  bold : Bool := false
  dimmed : Bool := false
  colour : Option Colour := none
  deriving Repr, DecidableEq

namespace Style

/-- No style at all. -/
def plain : Style := {}

/-- Bold in the default colour. -/
def strong : Style := { bold := true }

/-- Dimmed in the default colour. -/
def faint : Style := { dimmed := true }

/-- A colour alone. -/
def coloured (c : Colour) : Style := { colour := some c }

def strongIn (c : Colour) : Style := { bold := true, colour := some c }

/-- The codes of a style, modifiers first. -/
def codes (s : Style) : List Nat :=
  (if s.bold then [1] else []) ++ (if s.dimmed then [2] else []) ++
    match s.colour with
    | some c => [c.code]
    | none => []

def opening (s : Style) : String :=
  "\x1b[" ++ String.intercalate ";" (s.codes.map (fun n => toString n)) ++ "m"

end Style

/-- What switches every style off. -/
def reset : String := "\x1b[0m"

/-- The characters with `again` put after each reset among them. -/
def afterResets (again : List Char) : List Char → List Char
  | '\x1b' :: '[' :: '0' :: 'm' :: r => '\x1b' :: '[' :: '0' :: 'm' :: again ++ afterResets again r
  | c :: r => c :: afterResets again r
  | [] => []

/-- A piece of text in a style, with codes when `colours` is set. -/
def paint (colours : Bool) (s : Style) (text : String) : String :=
  if colours && !s.codes.isEmpty then
    s.opening ++ String.ofList (afterResets s.opening.toList text.toList) ++ reset
  else text

@[simp] theorem paint_off (s : Style) (text : String) : paint false s text = text := rfl

end ValidatorKeys.Text
