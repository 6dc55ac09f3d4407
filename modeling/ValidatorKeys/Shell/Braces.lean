import ValidatorKeys.Shell.Syntax
import ValidatorKeys.Text.Natural

/-!
# Braces

In the extended dialect a word with a list or a range in braces stands for several words.

    alternatives n w = the words that w stands for
-/

namespace ValidatorKeys.Shell.Braces

open Kernel (Bytes)

/-! ## Parts -/

/-- A part of a word: a character that stands for itself, or anything else. -/
abbrev Part := Char ⊕ Piece

/-- The parts of a word. -/
def parts (w : Word) : List Part :=
  w.flatMap fun p =>
    match p with
    | .literal s => s.map Sum.inl
    | p => [.inr p]

def wordOf : List Part → Word
  | [] => []
  | .inl c :: rest => Word.addLiteral c (wordOf rest)
  | .inr p :: rest => p :: wordOf rest

/-- The parts up to the brace that closes the one in front, cut at the commas between, with what
follows it; `depth` counts the braces that are open. -/
def close : Nat → List Part → Option (List (List Part) × List Part)
  | _, [] => none
  | depth, p :: rest =>
    let extend (p : Part) : List (List Part) → List (List Part)
      | [] => [[p]]
      | q :: qs => (p :: q) :: qs
    match p with
    | .inl '\x7b' => (close (depth + 1) rest).map fun (items, after) => (extend p items, after)
    | .inl '\x7d' =>
      if depth = 0 then some ([[]], rest)
      else (close (depth - 1) rest).map fun (items, after) => (extend p items, after)
    | .inl ',' =>
      if depth = 0 then (close depth rest).map fun (items, after) => ([] :: items, after)
      else (close depth rest).map fun (items, after) => (extend p items, after)
    | p => (close depth rest).map fun (items, after) => (extend p items, after)

/-! ## Ranges -/

/-- The number that a text spells. -/
def integer? (s : Bytes) : Option Int :=
  let digits := match s with
    | '-' :: r => r
    | '+' :: r => r
    | r => r
  if digits.isEmpty || !digits.all Char.isDigit then none
  else
    let n : Int := Text.decimalValue digits
    some (if s.head? = some '-' then -n else n)

def range (a b : Int) (step : Nat) : List Int :=
  let step := max 1 step
  let count := (b - a).natAbs / step + 1
  (List.range count).map fun k => if a ≤ b then a + (k * step : Nat) else a - (k * step : Nat)

/-- A number in at least so many places. -/
def padded (width : Nat) (n : Int) : Bytes :=
  let ds := Nat.toDigits 10 n.natAbs
  if n < 0 then '-' :: List.replicate (width - 1 - ds.length) '0' ++ ds
  else List.replicate (width - ds.length) '0' ++ ds

/-- Whether a number is written with a zero in front. -/
def isPadded (s : Bytes) : Bool :=
  match s with
  | '0' :: _ :: _ => true
  | '-' :: '0' :: _ :: _ => true
  | _ => false

def dotParts : Bytes → List Bytes
  | [] => [[]]
  | '.' :: '.' :: r => [] :: dotParts r
  | c :: r =>
    match dotParts r with
    | [] => [[c]]
    | p :: ps => (c :: p) :: ps

def rangeTexts? (s : Bytes) : Option (List Bytes) :=
  let ends? := match dotParts s with
    | [a, b] => some (a, b, 1)
    | [a, b, c] => (integer? c).map fun (n : Int) => (a, b, n.natAbs)
    | _ => none
  ends?.bind fun (a, b, step) =>
    match integer? a, integer? b with
    | some x, some y =>
      let width := if isPadded a || isPadded b then max a.length b.length else 0
      some ((range x y step).map (padded width))
    | _, _ =>
      match a, b with
      | [c], [d] =>
        if c.isAlpha && d.isAlpha then
          some ((range c.toNat d.toNat step).map fun (n : Int) => [Char.ofNat n.toNat])
        else none
      | _, _ => none

/-! ## Words -/

/-- The rows of parts that parts stand for, in at most `n` steps. -/
def expand : Nat → List Part → List (List Part)
  | 0, ps => [ps]
  | _, [] => [[]]
  | n + 1, .inl '\x7b' :: rest =>
    let plain : List (List Part) := (expand n rest).map (.inl '\x7b' :: ·)
    match close 0 rest with
    | none => plain
    | some ([item], after) =>
      let text? := item.mapM fun p => p.getLeft?
      match text?.bind rangeTexts? with
      | some texts =>
        let tails := expand n after
        texts.flatMap fun s => tails.map (s.map Sum.inl ++ ·)
      | none => plain
    | some (items, after) =>
      let tails := expand n after
      items.flatMap fun item =>
        (expand n item).flatMap fun head => tails.map (head ++ ·)
  | n + 1, p :: rest => (expand n rest).map (p :: ·)

def alternatives (w : Word) : List Word :=
  let ps := parts w
  if ps.any fun p => p.getLeft? == some '\x7b' then (expand (ps.length + 1) ps).map wordOf else [w]

end ValidatorKeys.Shell.Braces
