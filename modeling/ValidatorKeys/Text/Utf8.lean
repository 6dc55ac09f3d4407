/-!
# Reading bytes as text

`decodeLossy` reads bytes as UTF-8 and never fails: each maximal piece that could have begun a
character, or single byte that cannot, is read as U+FFFD.  On well-formed bytes it agrees with
strict decoding.

A lead byte fixes how many bytes follow and the range of the first of them; all later ones are
in `0x80..0xBF`.  A piece ends at the first byte that falls outside its range, which then starts
the next piece.
-/

namespace ValidatorKeys.Text

/-! ## Algorithm -/

/-- The character read for ill-formed bytes. -/
def replacement : Char := Char.ofNat 0xFFFD

/-- What a lead byte of a longer character asks for: its own bits, the number of bytes that follow
and the least and greatest first one of them. -/
def leadByte? (b : Nat) : Option (Nat × Nat × Nat × Nat) :=
  if 0xC2 ≤ b ∧ b ≤ 0xDF then some (b - 0xC0, 1, 0x80, 0xBF)
  else if b = 0xE0 then some (0, 2, 0xA0, 0xBF)
  else if b = 0xED then some (13, 2, 0x80, 0x9F)
  else if 0xE1 ≤ b ∧ b ≤ 0xEF then some (b - 0xE0, 2, 0x80, 0xBF)
  else if b = 0xF0 then some (0, 3, 0x90, 0xBF)
  else if 0xF1 ≤ b ∧ b ≤ 0xF3 then some (b - 0xF0, 3, 0x80, 0xBF)
  else if b = 0xF4 then some (4, 3, 0x80, 0x8F)
  else none

/-- Reads the `n` bytes that complete a character whose bits so far are `bits`, the first of them
between `lo` and `hi`.  Answers the character and the bytes after the piece. -/
def continuation (bits lo hi : Nat) : Nat → List UInt8 → Char × List UInt8
  | 0, bs => (Char.ofNat bits, bs)
  | _ + 1, [] => (replacement, [])
  | n + 1, b :: bs =>
    if lo ≤ b.toNat ∧ b.toNat ≤ hi then
      continuation (bits * 64 + (b.toNat - 0x80)) 0x80 0xBF n bs
    else (replacement, b :: bs)

theorem length_continuation_le (bits lo hi n : Nat) (bs : List UInt8) :
    (continuation bits lo hi n bs).2.length ≤ bs.length := by
  induction n generalizing bits lo hi bs with
  | zero => simp [continuation]
  | succ n ih =>
    cases bs with
    | nil => simp [continuation]
    | cons b bs =>
      rw [continuation]
      split
      · exact Nat.le_succ_of_le (ih _ _ _ bs)
      · exact Nat.le_refl _

/-- The bytes as text, with U+FFFD for each ill-formed piece. -/
def decodeLossyList : List UInt8 → List Char
  | [] => []
  | b :: bs =>
    if b.toNat < 0x80 then Char.ofNat b.toNat :: decodeLossyList bs
    else
      match leadByte? b.toNat with
      | none => replacement :: decodeLossyList bs
      | some (bits, n, lo, hi) =>
        (continuation bits lo hi n bs).1 :: decodeLossyList (continuation bits lo hi n bs).2
termination_by bs => bs.length
decreasing_by
  · simp
  · simp
  · have := length_continuation_le bits lo hi n bs
    simp
    omega

/-- The bytes as a string, with U+FFFD for each ill-formed piece. -/
def decodeLossy (bytes : ByteArray) : String := String.ofList (decodeLossyList bytes.data.toList)

/-- The bytes as a string when they are well-formed UTF-8. -/
def decode? (bytes : ByteArray) : Option String := String.fromUTF8? bytes

def encode (s : String) : ByteArray := s.toUTF8

/-! ## Lemmas -/

theorem decode?_encode (s : String) : decode? (encode s) = some s := by
  have h : s.toUTF8.IsValidUTF8 := s.isValidUTF8
  unfold decode? encode String.fromUTF8?
  rw [dif_pos h]
  rfl

theorem encode_append (s t : String) : encode (s ++ t) = encode s ++ encode t :=
  String.toByteArray_append

end ValidatorKeys.Text
