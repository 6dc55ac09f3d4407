import ValidatorKeys.Text.Utf8

/-!
# Bytes held as characters

Text of unknown encoding is held byte by byte: each byte is the character of its number.  Such a
text can be taken apart like any other, and gives the same bytes again.
-/

namespace ValidatorKeys.Text

/-- The bytes, each as the character of its number. -/
def octets (b : ByteArray) : List Char := b.data.toList.map fun x => Char.ofNat x.toNat

/-- The bytes that characters below 256 stand for. -/
def ofOctets (s : List Char) : ByteArray := ⟨(s.map fun c => UInt8.ofNat c.toNat).toArray⟩

/-- The bytes of a string, each as the character of its number. -/
def octetsOf (s : String) : List Char := octets (encode s)

/-- The string whose bytes these are, with U+FFFD for what is ill-formed. -/
def stringOfOctets (s : List Char) : String := decodeLossy (ofOctets s)

end ValidatorKeys.Text
