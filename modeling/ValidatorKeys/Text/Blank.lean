/-!
# Blank characters, trimming and words

`isBlank` is the Unicode property White_Space: twenty-five code points, of which the six ASCII ones
are tab, line feed, vertical tab, form feed, carriage return and space.  Trimming and the
splitting into words go by this class and by no other.

    trim s        = s without the blanks at either end
    words s       = the maximal runs of characters that are not blank, in order
-/

namespace ValidatorKeys.Text

/-! ## Algorithm -/

/-- The characters with the Unicode property White_Space. -/
def isBlank (c : Char) : Bool :=
  let n := c.toNat
  (9 ≤ n && n ≤ 13) || n == 0x20 || n == 0x85 || n == 0xA0 || n == 0x1680 ||
    (0x2000 ≤ n && n ≤ 0x200A) || n == 0x2028 || n == 0x2029 || n == 0x202F || n == 0x205F ||
    n == 0x3000

def trimStart (s : List Char) : List Char := s.dropWhile isBlank

/-- The text without the blanks at its end. -/
def trimEnd (s : List Char) : List Char := (s.reverse.dropWhile isBlank).reverse

def trim (s : List Char) : List Char := trimEnd (trimStart s)

theorem length_dropWhile_le {α : Type} (p : α → Bool) (s : List α) :
    (s.dropWhile p).length ≤ s.length := (List.dropWhile_sublist p).length_le

/-- The maximal runs of characters that are not blank. -/
def words (s : List Char) : List (List Char) :=
  match _h : s.dropWhile isBlank with
  | [] => []
  | c :: r =>
    (c :: r.takeWhile (fun d => !isBlank d)) :: words (r.dropWhile (fun d => !isBlank d))
termination_by s.length
decreasing_by
  have h₁ := length_dropWhile_le isBlank s
  have h₂ := length_dropWhile_le (fun d => !isBlank d) r
  simp [_h] at h₁
  omega

def allBlank (s : List Char) : Bool := s.all isBlank

/-! ## Lemmas -/

theorem words_nil : words [] = [] := by
  rw [words]
  split
  · rfl
  · rename_i heq
    simp at heq

end ValidatorKeys.Text
