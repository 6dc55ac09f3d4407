import ValidatorKeys.Text.Alphanumeric

/-!
# Values asked of a field

A directive may ask that a field have a value: a truth value, a number, or a text that matches a
pattern.  Entries of this tool are in no span, so that a value never decides anything; but a pattern
that cannot be read makes the whole list of directives unreadable.  Patterns are groups, classes of
characters and repetitions; they cannot ask for the boundaries of words.
-/

namespace ValidatorKeys.CommandLine.ValuePattern

/-! ## Numbers -/

def behindDigits (s : List Char) : List Char := s.dropWhile Char.isDigit

/-- Whether a text is a number without a sign. -/
def isNumber (s : List Char) : Bool :=
  let word := (String.ofList s).toLower
  let rest := behindDigits s
  let part := match rest with
    | '.' :: r => behindDigits r
    | r => r
  let digits := (s.takeWhile fun c => c.isDigit || c = '.').countP Char.isDigit
  let isExponent := match part with
    | [] => true
    | e :: r =>
      let r := if r.head? = some '+' || r.head? = some '-' then r.tail else r
      (e = 'e' || e = 'E') && !r.isEmpty && r.all Char.isDigit
  word = "inf" || word = "infinity" || word = "nan" || (digits ≠ 0 && isExponent)

/-! ## Escapes -/

/-- What an escape stands for: one character, a class of them, or a place. -/
inductive Escape where
  | char (n : Nat)
  | chars
  | place
  deriving Repr, DecidableEq

def hexadecimal? (c : Char) : Option Nat :=
  if c.isDigit then some (c.toNat - 48)
  else if 'a' ≤ c && c ≤ 'f' then some (c.toNat - 87)
  else if 'A' ≤ c && c ≤ 'F' then some (c.toNat - 55)
  else none

/-- The character of a number in so many hexadecimal digits, and what follows them. -/
def hexadecimal (count : Nat) (s : List Char) : Option (Escape × List Char) :=
  let digits := (s.take count).filterMap hexadecimal?
  let n := digits.foldl (fun n d => 16 * n + d) 0
  if digits.length = count && n < 0x110000 && !(0xD800 ≤ n && n < 0xE000) then
    some (.char n, s.drop count)
  else none

def escape? : List Char → Option (Escape × List Char)
  | [] => none
  | c :: r =>
    if "dswDSW".toList.contains c then some (.chars, r)
    else if c = 'p' || c = 'P' then
      match r with
      | k :: r => if "LMNPSZClmnpszc".toList.contains k then some (.chars, r) else none
      | [] => none
    else if c = 'x' then hexadecimal 2 r
    else if c = 'u' then hexadecimal 4 r
    else if c = 'U' then hexadecimal 8 r
    else
      match c with
      | 'a' => some (.char 7, r)
      | 'f' => some (.char 12, r)
      | 't' => some (.char 9, r)
      | 'n' => some (.char 10, r)
      | 'r' => some (.char 13, r)
      | 'v' => some (.char 11, r)
      | 'A' => some (.place, r)
      | 'z' => some (.place, r)
      | c =>
        if c.toNat < 128 && !c.isAlphanum && c ≠ '<' && c ≠ '>' then some (.char c.toNat, r)
        else none

/-! ## Classes -/

def classNames : List String :=
  ["alnum", "alpha", "ascii", "blank", "cntrl", "digit", "graph", "lower", "print", "punct", "space",
    "upper", "word", "xdigit"]

/-- What follows a named class behind its opening bracket. -/
def behindNamed? : List Char → Option (List Char)
  | ':' :: r =>
    let name := r.takeWhile (· ≠ ':')
    let word := if name.head? = some '^' then name.tail else name
    match r.drop name.length with
    | ':' :: ']' :: rest => if classNames.contains (String.ofList word) then some rest else none
    | _ => none
  | _ => none

def element? : List Char → Option (Escape × List Char)
  | '\\' :: r => (escape? r).bind fun (e, rest) => if e = .place then none else some (e, rest)
  | c :: r => some (.char c.toNat, r)
  | [] => none

/-- What follows the sign of a class that excludes, dashes and a bracket that stand for themselves at
the start. -/
def behindOpening (s : List Char) : List Char :=
  let s := if s.head? = some '^' then s.tail else s
  let rest := s.dropWhile (· = '-')
  if rest.length = s.length && rest.head? = some ']' then rest.tail else rest

/-- What follows classes of which `depth` more than one are open, in at most `n` steps. -/
def behindClass? : Nat → Nat → List Char → Option (List Char)
  | 0, _, _ => none
  | _, _, [] => none
  | n + 1, depth, c :: r =>
    if c = ']' then
      match depth with
      | 0 => some r
      | depth + 1 => behindClass? n depth r
    else if c = '[' then
      match behindNamed? r with
      | some rest => behindClass? n depth rest
      | none => behindClass? n (depth + 1) (behindOpening r)
    else
      match c, r with
      | '&', '&' :: rest => behindClass? n depth rest
      | '-', '-' :: rest => behindClass? n depth rest
      | '~', '~' :: rest => behindClass? n depth rest
      | _, _ =>
        match element? (c :: r) with
        | none => none
        | some (first, rest) =>
          match rest with
          | '-' :: d :: more =>
            if d = ']' || d = '-' then behindClass? n depth rest
            else
              match first, element? (d :: more) with
              | .char a, some (.char b, after) =>
                if a ≤ b then behindClass? n depth after else none
              | _, _ => none
          | rest => behindClass? n depth rest

/-! ## Groups -/

/-- What opens a group: one with a name, one without, or flags that hold from here on. -/
inductive Opening where
  | group (name : Option (List Char))
  | flags
  deriving Repr, DecidableEq

/-- Whether these are flags: letters, each at most once, of which some may be turned off. -/
def areFlags (s : List Char) : Bool :=
  let letters := s.filter (· ≠ '-')
  letters.all "imsUuRx".toList.contains && letters.eraseDups.length = letters.length &&
    s.count '-' ≤ 1 && s.getLast? ≠ some '-'

/-- The name of a group, which an angle ends, and what follows it. -/
def name? (s : List Char) : Option (Opening × List Char) :=
  let name := s.takeWhile (· ≠ '>')
  let isStart (c : Char) : Bool := c = '_' || (Text.isAlphanumeric c && !c.isDigit)
  let isPart (c : Char) : Bool := Text.isAlphanumeric c || "_.[]".toList.contains c
  match name, s.drop name.length with
  | c :: more, _ :: rest =>
    if isStart c && more.all isPart then some (.group (some (c :: more)), rest) else none
  | _, _ => none

/-- What stands behind an opening parenthesis, and what follows it. -/
def opening? : List Char → Option (Opening × List Char)
  | '?' :: 'P' :: '<' :: r => name? r
  | '?' :: '<' :: r => if r.head? = some '!' then none else name? r
  | '?' :: r =>
    let flags := r.takeWhile fun c => c ≠ ':' && c ≠ ')'
    match r.drop flags.length with
    | ':' :: rest => if areFlags flags then some (.group none, rest) else none
    | ')' :: rest => if areFlags flags && !flags.isEmpty then some (.flags, rest) else none
    | _ => none
  | r => some (.group none, r)

/-! ## Patterns -/

/-- Whether the rest of a pattern can be read, in at most `n` steps: `depth` groups are open, with
these names so far, and `repeatable` tells whether there is something in front to repeat. -/
def isRest : Nat → Nat → Bool → List (List Char) → List Char → Bool
  | 0, _, _, _, _ => false
  | _, depth, _, _, [] => depth = 0
  | n + 1, depth, repeatable, names, c :: r =>
    match c with
    | '(' =>
      match opening? r with
      | none => false
      | some (.flags, rest) => isRest n depth false names rest
      | some (.group none, rest) => isRest n (depth + 1) false names rest
      | some (.group (some name), rest) =>
        !names.contains name && isRest n (depth + 1) false (name :: names) rest
    | ')' => depth ≠ 0 && isRest n (depth - 1) true names r
    | '|' => isRest n depth false names r
    | '[' =>
      match behindClass? (r.length + 1) 0 (behindOpening r) with
      | some rest => isRest n depth true names rest
      | none => false
    | '\\' =>
      match escape? r with
      | some (_, rest) => isRest n depth true names rest
      | none => false
    | '\x7b' => false
    | c =>
      if c = '*' || c = '+' || c = '?' then
        repeatable && isRest n depth true names (if r.head? = some '?' then r.tail else r)
      else isRest n depth true names r

/-- Whether a value that is asked of a field can be read. -/
def isReadable (s : List Char) : Bool :=
  (s.head? = some '+' && isNumber s.tail) || isRest (s.length + 1) 0 false [] s

end ValidatorKeys.CommandLine.ValuePattern
