/-!
# Dates and times

Local and offset date-times as TOML 1.0 has them.  Days follow the calendar, seconds may be a leap
second, fractions count nanoseconds.  `text` writes `T` between date and time, `Z` for the zero
offset that was written so, and no zeros at the end of a fraction.
-/

namespace ValidatorKeys.Toml

/-- A day of the calendar. -/
structure Date where
  year : Nat
  month : Nat
  day : Nat
  deriving Repr, DecidableEq

/-- A time of the day. -/
structure Time where
  hour : Nat
  minute : Nat
  second : Nat
  nanosecond : Nat := 0
  deriving Repr, DecidableEq

/-- Distance from universal time: none, or minutes to the east or the west. -/
inductive Offset where
  | zulu
  | minutes (west : Bool) (amount : Nat)
  deriving Repr, DecidableEq

/-- A date, a time, or both, with an offset only beside both. -/
structure DateTime where
  date : Option Date := none
  time : Option Time := none
  offset : Option Offset := none
  deriving Repr, DecidableEq

/-! ## Calendar -/

/-- Whether a year has a 29 February. -/
def isLeapYear (year : Nat) : Bool := year % 4 == 0 && (year % 100 != 0 || year % 400 == 0)

/-- The number of days of a month. -/
def daysInMonth (year month : Nat) : Nat :=
  if month = 2 then (if isLeapYear year then 29 else 28)
  else if month = 4 ∨ month = 6 ∨ month = 9 ∨ month = 11 then 30
  else 31

def Date.valid (d : Date) : Bool :=
  1 ≤ d.month && d.month ≤ 12 && 1 ≤ d.day && d.day ≤ daysInMonth d.year d.month

def Time.valid (t : Time) : Bool := t.hour ≤ 23 && t.minute ≤ 59 && t.second ≤ 60

/-! ## Reading -/

def digitsValue (ds : List Char) : Nat := ds.foldl (fun n c => 10 * n + (c.toNat - 48)) 0

/-- Reads exactly `n` digits. -/
def readDigits (n : Nat) (s : List Char) : Option (Nat × List Char) :=
  let ds := s.take n
  if ds.length = n ∧ ds.all Char.isDigit then some (digitsValue ds, s.drop n) else none

def readChar (c : Char) : List Char → Option (List Char)
  | d :: r => if d = c then some r else none
  | [] => none

def readDate (s : List Char) : Option (Date × List Char) := do
  let (year, s) ← readDigits 4 s
  let s ← readChar '-' s
  let (month, s) ← readDigits 2 s
  let s ← readChar '-' s
  let (day, s) ← readDigits 2 s
  if Date.valid ⟨year, month, day⟩ then some (⟨year, month, day⟩, s) else none

/-- Nanoseconds of the digits of a fraction; digits after the ninth do not count. -/
def nanoseconds (ds : List Char) : Nat :=
  let used := ds.take 9
  digitsValue used * Nat.pow 10 (9 - used.length)

def readFraction : List Char → Option (Nat × List Char)
  | '.' :: r =>
    let ds := r.takeWhile Char.isDigit
    if ds.isEmpty then none else some (nanoseconds ds, r.dropWhile Char.isDigit)
  | s => some (0, s)

def readTime (s : List Char) : Option (Time × List Char) := do
  let (hour, s) ← readDigits 2 s
  let s ← readChar ':' s
  let (minute, s) ← readDigits 2 s
  let s ← readChar ':' s
  let (second, s) ← readDigits 2 s
  let (fraction, s) ← readFraction s
  let t : Time := ⟨hour, minute, second, fraction⟩
  if t.valid then some (t, s) else none

def readOffset : List Char → Option (Option Offset × List Char)
  | c :: r =>
    if c = 'Z' ∨ c = 'z' then some (some .zulu, r)
    else if c = '+' ∨ c = '-' then do
      let (hours, s) ← readDigits 2 r
      let s ← readChar ':' s
      let (minutes, s) ← readDigits 2 s
      if hours ≤ 23 ∧ minutes ≤ 59 then
        let amount := 60 * hours + minutes
        some (some (.minutes (c == '-' && amount != 0) amount), s)
      else none
    else some (none, c :: r)
  | [] => some (none, [])

/-- Whether a text starts like a date: four digits and a hyphen. -/
def startsDate (s : List Char) : Bool :=
  (s.take 4).length == 4 && (s.take 4).all Char.isDigit && (s.drop 4).head? == some '-'

/-- Whether a text starts like a time: an hour of the clock and a colon. -/
def startsTime (s : List Char) : Bool :=
  match readDigits 2 s with
  | some (hour, r) => hour ≤ 23 && r.head? == some ':'
  | none => false

/-- Reads a date, a time, or both, from a text that starts like one. -/
def readDateTime (s : List Char) : Option (DateTime × List Char) :=
  if startsDate s then do
    let (date, s) ← readDate s
    match s with
    | c :: r =>
      if (c = 'T' ∨ c = 't' ∨ c = ' ') ∧ startsTime r then do
        let (time, s) ← readTime r
        let (offset, s) ← readOffset s
        some (⟨some date, some time, offset⟩, s)
      else some (⟨some date, none, none⟩, s)
    | [] => some (⟨some date, none, none⟩, [])
  else do
    let (time, s) ← readTime s
    some (⟨none, some time, none⟩, s)

/-! ## Writing -/

/-- A number with zeros in front up to a width. -/
def padded (width n : Nat) : String :=
  let ds := Nat.toDigits 10 n
  String.ofList (List.replicate (width - ds.length) '0' ++ ds)

def Date.text (d : Date) : String :=
  padded 4 d.year ++ "-" ++ padded 2 d.month ++ "-" ++ padded 2 d.day

def Time.text (t : Time) : String :=
  padded 2 t.hour ++ ":" ++ padded 2 t.minute ++ ":" ++ padded 2 t.second ++
    if t.nanosecond = 0 then ""
    else
      let ds := (padded 9 t.nanosecond).toList
      "." ++ String.ofList (ds.reverse.dropWhile (· == '0')).reverse

def Offset.text : Offset → String
  | .zulu => "Z"
  | .minutes west amount =>
    (if west then "-" else "+") ++ padded 2 (amount / 60) ++ ":" ++ padded 2 (amount % 60)

def DateTime.text (d : DateTime) : String :=
  let date := match d.date with
    | some x => x.text
    | none => ""
  let time := match d.time with
    | some x => x.text
    | none => ""
  let offset := match d.offset with
    | some x => x.text
    | none => ""
  date ++ (if d.date.isSome && d.time.isSome then "T" else "") ++ time ++ offset

end ValidatorKeys.Toml
