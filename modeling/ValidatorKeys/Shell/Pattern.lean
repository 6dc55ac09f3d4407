import ValidatorKeys.Kernel.Machine

/-!
# Patterns

`*` stands for any text, `?` for one character, brackets for one of a set; a character that is
quoted stands for itself, and so does one behind a backslash.

    isMatch (.any :: p) s   exactly when p matches what is left of s behind some first part
-/

namespace ValidatorKeys.Shell

open Kernel (Bytes)

/-- A character with whether it may act as part of a pattern. -/
abbrev Marked := Char × Bool

/-- A member of a set. -/
inductive SetMember where
  | range (first last : Char)
  | ofClass (name : String)
  deriving Repr, DecidableEq

inductive PatternItem where
  | any
  | one
  | exact (c : Char)
  | set (negated : Bool) (members : List SetMember)
  deriving Repr, DecidableEq

/-- Classes of characters that a set can name. -/
def characterClass? (name : String) : Option (Char → Bool) :=
  let printable (c : Char) : Bool := ' ' ≤ c && c ≤ '~'
  match name with
  | "alnum" => some Char.isAlphanum
  | "alpha" => some Char.isAlpha
  | "blank" => some fun c => c = ' ' || c = '\t'
  | "cntrl" => some fun c => c < ' ' || c = '\x7f'
  | "digit" => some Char.isDigit
  | "graph" => some fun c => printable c && c ≠ ' '
  | "lower" => some Char.isLower
  | "print" => some printable
  | "punct" => some fun c => printable c && c ≠ ' ' && !c.isAlphanum
  | "space" => some fun c => c = ' ' || ('\t' ≤ c && c ≤ '\r')
  | "upper" => some Char.isUpper
  | "xdigit" => some fun c => c.isDigit || ('a' ≤ c && c ≤ 'f') || ('A' ≤ c && c ≤ 'F')
  | _ => none

def SetMember.admits (c : Char) : SetMember → Bool
  | .range first last => first ≤ c && c ≤ last
  | .ofClass name =>
    match characterClass? name with
    | some p => p c
    | none => false

namespace Pattern

def admits : PatternItem → Char → Bool
  | .any, _ => true
  | .one, _ => true
  | .exact d, c => c == d
  | .set negated members, c => (members.any fun m => m.admits c) != negated

def isMatch : List PatternItem → Bytes → Bool
  | [], s => s.isEmpty
  | .any :: p, [] => isMatch p []
  | .any :: p, c :: s => isMatch p (c :: s) || isMatch (.any :: p) s
  | _ :: _, [] => false
  | i :: p, c :: s => admits i c && isMatch p s
termination_by p s => p.length + s.length

/-! ## Reading -/

/-- The class that stands behind an opening bracket of its own, and what follows it. -/
def readClass? (s : List Marked) : Option (SetMember × List Marked) :=
  match s with
  | (':', true) :: rest =>
    let name := String.ofList ((rest.takeWhile fun m => m.1 ≠ ':').map Prod.fst)
    match rest.dropWhile fun m => m.1 ≠ ':' with
    | (':', true) :: (']', true) :: rest =>
      if (characterClass? name).isSome then some (.ofClass name, rest) else none
    | _ => none
  | _ => none

/-- The members of a set up to the bracket that closes it, and what follows; `first` tells that a
closing bracket belongs to the set. -/
def readMembers : Nat → Bool → List Marked → Option (List SetMember × List Marked)
  | 0, _, _ => none
  | _, _, [] => none
  | n + 1, first, (c, active) :: rest =>
    let add (m : SetMember) (rest : List Marked) : Option (List SetMember × List Marked) :=
      (readMembers n false rest).map fun (ms, rest) => (m :: ms, rest)
    if c = ']' ∧ active ∧ !first then some ([], rest)
    else
      match (if c = '[' && active then readClass? rest else none) with
      | some (m, rest) => add m rest
      | none =>
        let (c, rest) := match active && c = '\\', rest with
          | true, (d, _) :: rest => (d, rest)
          | _, rest => (c, rest)
        match rest with
        | ('-', true) :: (d, q) :: more =>
          if d = ']' ∧ q then add (.range c c) rest
          else
            match q && d = '\\', more with
            | true, (e, _) :: more => add (.range c e) more
            | _, more => add (.range c d) more
        | rest => add (.range c c) rest

/-- A set behind its opening bracket; `!` negates it. -/
def readSet (s : List Marked) : Option (PatternItem × List Marked) :=
  let (negated, s) := match s with
    | ('!', true) :: rest => (true, rest)
    | s => (false, s)
  (readMembers (s.length + 1) true s).map fun (ms, rest) => (.set negated ms, rest)

/-- The items of a pattern, read in at most as many steps as it has characters. -/
def read (s : List Marked) : List PatternItem :=
  go s.length s
where
  go : Nat → List Marked → List PatternItem
    | _, [] => []
    | 0, _ => []
    | n + 1, (c, active) :: rest =>
      if !active then .exact c :: go n rest
      else if c = '*' then .any :: go n rest
      else if c = '?' then .one :: go n rest
      else if c = '[' then
        match readSet rest with
        | some (item, rest) => item :: go n rest
        | none => .exact c :: go n rest
      else if c = '\\' then
        match rest with
        | (d, _) :: rest => .exact d :: go n rest
        | [] => [.exact c]
      else .exact c :: go n rest

/-- Whether some character acts as part of a pattern. -/
def isActive (s : List Marked) : Bool :=
  s.any fun m => m.2 && (m.1 == '*' || m.1 == '?' || m.1 == '[')

end Pattern

end ValidatorKeys.Shell
