import ValidatorKeys.Printing.Escape

/-!
# Printing by a format

A format is a row of items: text, and places that arguments fill.  It is used again until no argument
is left; where arguments are missing, text is empty and numbers are zero.

    printed own format args = what is printed and what there is to complain of

`own` tells that a program of its own prints, and no shell.
-/

namespace ValidatorKeys.Printing

/-! ## Items -/

/-- A width or a precision: none, a number, or one that an argument gives. -/
inductive Extent where
  | none
  | number (n : Nat)
  | argument
  deriving Repr, DecidableEq

/-- How a conversion fills its place. -/
structure Directive where
  left : Bool := false
  zero : Bool := false
  plus : Bool := false
  space : Bool := false
  alternate : Bool := false
  width : Nat := 0
  precision : Option Nat := none
  deriving Repr, DecidableEq

inductive Item where
  | text (s : Bytes)
  | stop
  | conversion (d : Directive) (width precision : Extent) (letter : Char) (source : Bytes)
  | incomplete (source : Bytes)
  deriving Repr, DecidableEq

namespace Directive

def withFlag (d : Directive) (c : Char) : Directive :=
  if c = '-' then { d with left := true }
  else if c = '0' then { d with zero := true }
  else if c = '+' then { d with plus := true }
  else if c = ' ' then { d with space := true }
  else { d with alternate := true }

/-- The directive with a width; one below zero asks for the left side. -/
def withWidth (d : Directive) (n : Int) : Directive :=
  if n < 0 then { d with left := true, width := n.natAbs } else { d with width := n.toNat }

/-- The directive with a precision; one below zero counts as none. -/
def withPrecision (d : Directive) (n : Int) : Directive :=
  { d with precision := if n < 0 then none else some n.toNat }

/-- A text filled up to the width. -/
def pad (d : Directive) (s : Bytes) : Bytes :=
  let fill := List.replicate (d.width - s.length) ' '
  if d.left then s ++ fill else fill ++ s

def padNumber (d : Directive) (sign digits : Bytes) : Bytes :=
  if d.zero && !d.left && d.precision.isNone then
    sign ++ List.replicate (d.width - sign.length - digits.length) '0' ++ digits
  else d.pad (sign ++ digits)

def sign (d : Directive) (negative : Bool) : Bytes :=
  if negative then ['-'] else if d.plus then ['+'] else if d.space then [' '] else []

def integer (d : Directive) (conversion : Char) (n : Int) : Bytes :=
  let unsigned := (n % Int.pow 2 64).toNat
  let filled (digits : Bytes) : Bytes :=
    match d.precision with
    | some 0 => if digits = ['0'] then [] else digits
    | some p => List.replicate (p - digits.length) '0' ++ digits
    | none => digits
  let number (sign digits : Bytes) : Bytes := d.padNumber sign (filled digits)
  if conversion = 'd' ∨ conversion = 'i' then
    number (d.sign (n < 0)) (Nat.toDigits 10 n.natAbs)
  else if conversion = 'u' then number [] (Nat.toDigits 10 unsigned)
  else if conversion = 'o' then
    let digits := Nat.toDigits 8 unsigned
    number [] (if d.alternate && digits.head? != some '0' then '0' :: digits else digits)
  else
    let digits := Nat.toDigits 16 unsigned
    let digits := if conversion = 'X' then digits.map Char.toUpper else digits
    number (if d.alternate && unsigned != 0 then ['0', conversion] else []) digits

end Directive

/-! ## Reading formats -/

/-- A width or a precision at the start of a text, and what follows it. -/
def readExtent : Bytes → Extent × Bytes
  | '*' :: r => (.argument, r)
  | s =>
    let (ds, rest) := spanDigits 10 s.length s
    (if ds.isEmpty then .none else .number (valueOf 10 ds), rest)

/-- The conversion behind a percent sign, and what follows it. -/
def readConversion (s : Bytes) : Item × Bytes :=
  let isFlag (c : Char) : Bool := "-0+ #".toList.contains c
  let d := (s.takeWhile isFlag).foldl Directive.withFlag {}
  let (width, rest) := readExtent (s.dropWhile isFlag)
  let (precision, rest) := match rest with
    | '.' :: r =>
      match readExtent r with
      | (.none, r) => (Extent.number 0, r)
      | other => other
    | r => (.none, r)
  match rest with
  | [] => (.incomplete ('%' :: s), [])
  | c :: r => (.conversion d width precision c ('%' :: s.take (s.length - r.length)), r)

/-- The items of a format, in at most `n` steps. -/
def readItems (own : Bool) : Nat → Bytes → List Item
  | 0, _ => []
  | _, [] => []
  | n + 1, '\\' :: r =>
    if own && r.head? = some 'c' then [.stop]
    else
      let (s, rest) := escape own r
      .text s :: readItems own n rest
  | n + 1, '%' :: '%' :: r => .text ['%'] :: readItems own n r
  | n + 1, '%' :: r =>
    let (item, rest) := readConversion r
    item :: readItems own n rest
  | n + 1, c :: r => .text [c] :: readItems own n r

/-! ## Printing -/

/-- What there is to complain of. -/
inductive Complaint where
  | notNumeric (s : Bytes)
  | partlyNumeric (s : Bytes)
  | outOfRange (s : Bytes)
  | trailingCharacters (s : Bytes)
  | incomplete (source : Bytes)
  | invalidDirective (source : Bytes)
  | excess (s : Bytes)
  deriving Repr, DecidableEq

/-- What was printed, with what is left of the arguments. -/
structure Printed where
  text : List Bytes := []
  rest : List Bytes
  asked : Bool := false
  complaints : List Complaint := []
  stop : Bool := false
  failed : Bool := false

abbrev Printer := StateM Printed

/-- The next argument, if there is one. -/
def nextArgument : Printer (Option Bytes) := do
  let p ← get
  set { p with rest := p.rest.tail, asked := true }
  pure p.rest.head?

def blame (c : Complaint) : Printer Unit :=
  modify fun p => { p with complaints := c :: p.complaints }

def refuse (c : Complaint) : Printer Unit :=
  modify fun p => { p with complaints := c :: p.complaints, stop := true, failed := true }

def emit (s : Bytes) : Printer Unit := modify fun p => { p with text := s :: p.text }

/-- Whether a character is a blank in front of a number. -/
def isBlank (c : Char) : Bool := c = ' ' || (9 ≤ c.toNat && c.toNat ≤ 13)

/-- The whole number at the start of a text, and what follows it. -/
def wholeNumber? (s : Bytes) : Option (Int × Bytes) :=
  let (negative, r) := match s.dropWhile isBlank with
    | '-' :: r => (true, r)
    | '+' :: r => (false, r)
    | r => (false, r)
  let (base, r) := match r with
    | '0' :: x :: d :: r =>
      if (x = 'x' ∨ x = 'X') ∧ isDigitOf 16 d then (16, d :: r) else (8, '0' :: x :: d :: r)
    | '0' :: r => (8, '0' :: r)
    | r => (10, r)
  let (ds, rest) := spanDigits base r.length r
  if ds.isEmpty then none
  else
    let n : Int := valueOf base ds
    some (if negative then -n else n, rest)

/-- The whole number that an argument spells; a quote in front asks for the code of a character. -/
def wholeArgument (signed : Bool) : Printer Int := do
  match ← nextArgument with
  | none => pure 0
  | some s =>
    match s with
    | '\x27' :: c :: rest => do
      if !rest.isEmpty then blame (.trailingCharacters rest)
      pure c.toNat
    | '"' :: c :: rest => do
      if !rest.isEmpty then blame (.trailingCharacters rest)
      pure c.toNat
    | [] => pure 0
    | s =>
      match wholeNumber? s with
      | none => do
        blame (.notNumeric s)
        pure 0
      | some (n, rest) => do
        let least : Int := if signed then -Int.pow 2 63 else -(Int.pow 2 64 - 1)
        let greatest : Int := if signed then Int.pow 2 63 - 1 else Int.pow 2 64 - 1
        if !rest.isEmpty then blame (.partlyNumeric s)
        else if n < least ∨ greatest < n then blame (.outOfRange s)
        pure (if n < least then (if signed then least else greatest)
          else if greatest < n then greatest else n)

/-- The width or the precision that is meant. -/
def resolve : Extent → Printer (Option Int)
  | .none => pure none
  | .number n => pure (some n)
  | .argument => do pure (some (← wholeArgument true))

def printItem (own : Bool) : Item → Printer Unit
  | .text s => emit s
  | .stop => modify fun p => { p with stop := true }
  | .incomplete source => refuse (.incomplete source)
  | .conversion d width precision letter source => do
    let d := match ← resolve width with
      | some n => d.withWidth n
      | none => d
    let d := match ← resolve precision with
      | some n => d.withPrecision n
      | none => d
    let clipped (s : Bytes) : Bytes :=
      match d.precision with
      | some p => s.take p
      | none => s
    if letter = 's' then emit (d.pad (clipped ((← nextArgument).getD [])))
    else if letter = 'c' then
      let s := (← nextArgument).getD []
      emit (d.pad (if s.isEmpty then [Char.ofNat 0] else s.take 1))
    else if letter = 'b' then
      let (s, stop) := unescape own ((← nextArgument).getD [])
      emit (d.pad (clipped s))
      if stop then modify fun p => { p with stop := true }
    else if letter = 'd' ∨ letter = 'i' then emit (d.integer letter (← wholeArgument true))
    else if "ouxX".toList.contains letter then emit (d.integer letter (← wholeArgument false))
    else refuse (.invalidDirective source)

def printItems (own : Bool) : List Item → Printer Unit
  | [] => pure ()
  | item :: rest => do
    printItem own item
    if (← get).stop then pure () else printItems own rest

/-- Uses a format until no argument is left, at most `n` times. -/
def printRounds (own : Bool) (items : List Item) : Nat → Printer Unit
  | 0 => pure ()
  | n + 1 => do
    modify fun p => { p with asked := false }
    printItems own items
    let p ← get
    if p.stop then pure ()
    else
      match p.rest with
      | [] => pure ()
      | s :: _ => if p.asked then printRounds own items n else blame (.excess s)

/-- What a format prints with these arguments. -/
def printed (own : Bool) (format : Bytes) (args : List Bytes) : Printed :=
  let items := readItems own format.length format
  ((printRounds own items (args.length + 1)).run { rest := args }).2

def Printed.output (p : Printed) : Bytes := p.text.reverse.flatten

end ValidatorKeys.Printing
