/-!
# Lines of a text

A line ends at a line feed, and a carriage return directly before that line feed belongs to the
line's ending.  A last piece without a line feed counts as a line when it is not empty, and keeps
a carriage return at its end.

    lines "a\r\nb\n" = ["a", "b"]        lines "a\r" = ["a\r"]        lines "\n" = [""]
-/

namespace ValidatorKeys.Text

/-! ## Algorithm -/

def lines : List Char → List (List Char)
  | [] => []
  | '\n' :: r => [] :: lines r
  | '\r' :: '\n' :: r => [] :: lines r
  | c :: r =>
    match lines r with
    | [] => [[c]]
    | l :: ls => (c :: l) :: ls

/-- The pieces between the occurrences of a character: always at least one. -/
def splitAt (sep : Char) : List Char → List (List Char)
  | [] => [[]]
  | c :: r =>
    if c = sep then [] :: splitAt sep r
    else
      match splitAt sep r with
      | [] => [[c]]
      | p :: ps => (c :: p) :: ps

/-! ## Lemmas -/

theorem splitAt_ne_nil (sep : Char) (s : List Char) : splitAt sep s ≠ [] := by
  cases s with
  | nil => simp [splitAt]
  | cons c r =>
    rw [splitAt]
    split
    · simp
    · split <;> simp

theorem lines_newline (r : List Char) : lines ('\n' :: r) = [] :: lines r := by
  rw [lines]

end ValidatorKeys.Text
