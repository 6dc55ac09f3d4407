import ValidatorKeys.Printing.Format
import ValidatorKeys.Utility.Options

/-!
# Printing and waiting

Utilities that print their arguments or parts of them, and those that do nothing for a while or at
all.
-/

namespace ValidatorKeys.Utility

open Kernel (Bytes Work)

/-! ## Text -/

/-- The options of `echo` in front of its arguments: whether a line feed is wanted, whether escapes
count, and the arguments. -/
def echoOptions (newline escapes : Bool) : List Bytes → Bool × Bool × List Bytes
  | ('-' :: c :: more) :: rest =>
    if (c :: more).all fun c => "neE".toList.contains c then
      let escapes := (c :: more).foldl
        (fun e c => if c = 'e' then true else if c = 'E' then false else e) escapes
      echoOptions (newline && !(c :: more).contains 'n') escapes rest
    else (newline, escapes, ('-' :: c :: more) :: rest)
  | args => (newline, escapes, args)

def echo (args : List Bytes) : Run Unit :=
  let (newline, escapes, args) := echoOptions true false args
  out (Printing.echo escapes true newline args)

/-- The text of a complaint about a format, and whether it is a failure. -/
def formatComplaint : Printing.Complaint → Bytes × Bool
  | .notNumeric s => (quote s ++ ": expected a numeric value".toList, true)
  | .partlyNumeric s => (quote s ++ ": value not completely converted".toList, true)
  | .outOfRange s => (quote s ++ ": Numerical result out of range".toList, true)
  | .trailingCharacters s =>
    ("warning: ".toList ++ s ++
      ": character(s) following character constant have been ignored".toList, false)
  | .incomplete source => (source ++ ": invalid conversion specification".toList, true)
  | .invalidDirective source => (source ++ ": invalid conversion specification".toList, true)
  | .excess s =>
    ("warning: ignoring excess arguments, starting with ".toList ++ quote s, false)

def printf (args : List Bytes) : Run Unit := do
  let args := if args.head? = some ['-', '-'] then args.tail else args
  match args with
  | [] => refuse 1 "missing operand".toList
  | format :: args =>
    let p := Printing.printed true format args
    for c in p.complaints.reverse do
      let (text, failure) := formatComplaint c
      complain text
      if failure then fail 1
    out p.output

/-! ## Paths -/

/-- A path without slashes at its end; of slashes alone one stays. -/
def withoutSlashes (s : Bytes) : Bytes :=
  let t := (s.reverse.dropWhile (· = '/')).reverse
  if t.isEmpty && !s.isEmpty then ['/'] else t

def lastPart (s : Bytes) : Bytes :=
  let t := withoutSlashes s
  if t = ['/'] then t else (t.reverse.takeWhile (· ≠ '/')).reverse

/-- A text without an ending that is not all of it. -/
def withoutEnding (ending s : Bytes) : Bytes :=
  if ending ≠ s && ending.isSuffixOf s then s.take (s.length - ending.length) else s

/-- Prints the last part of a path, without an ending. -/
def basename (args : List Bytes) : Run Unit := do
  let (_, names) ← arguments { letters := "", inOrder := true } args
  match names with
  | [] => refuse 1 "missing operand".toList
  | [name] => outLine (lastPart name)
  | [name, ending] => outLine (withoutEnding ending (lastPart name))
  | _ :: _ :: extra :: _ => refuse 1 ("extra operand ".toList ++ quote extra)

def pwd (args : List Bytes) : Run Unit := do
  let (_, operands) ← arguments { letters := "LP" } args
  if !operands.isEmpty then complain "ignoring non-option arguments".toList
  outLine (Text.octetsOf (← work Work.directory))

/-! ## Waiting -/

def secondsOf? : Bytes → Option Nat
  | [] => some 1
  | ['s'] => some 1
  | ['m'] => some 60
  | ['h'] => some 3600
  | ['d'] => some 86400
  | _ => none

/-- The microseconds of an interval: a number with or without a fraction, and a letter for its unit. -/
def interval? (s : Bytes) : Option Nat :=
  let (whole, rest) := s.span Char.isDigit
  let (part, unit) := match rest with
    | '.' :: r => r.span Char.isDigit
    | r => ([], r)
  if whole.isEmpty && part.isEmpty then none
  else
    (secondsOf? unit).map fun k =>
      Text.decimalValue (whole ++ part) * k * 1000000 / Nat.pow 10 part.length

def sleep (args : List Bytes) : Run Unit := do
  let (_, intervals) ← arguments { letters := "" } args
  if intervals.isEmpty then refuse 1 "missing operand".toList
  let times ← intervals.mapM fun s => do
    match interval? s with
    | some n => pure (some n)
    | none => do
      complain ("invalid time interval ".toList ++ quote s)
      pure none
  if times.contains none then
    tell (advice (← get).name ++ ['\n'])
    close 1
  work (Work.rest ((times.filterMap id).foldr (· + ·) 0))

def idle (status : Nat) (_ : List Bytes) : Run Unit := fail status

end ValidatorKeys.Utility
