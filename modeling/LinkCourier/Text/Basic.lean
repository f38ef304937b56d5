/-!
Texts and the bytes that carry them.
-/

namespace LinkCourier

/-- A text is the list of its characters. -/
abbrev Text := List Char

abbrev Bytes := List UInt8

namespace Text

/-- The UTF-8 bytes of a text. -/
def encode (t : Text) : Bytes := t.flatMap String.utf8EncodeChar

@[simp] theorem encode_nil : encode [] = [] := rfl

@[simp] theorem encode_cons (c : Char) (t : Text) :
    encode (c :: t) = String.utf8EncodeChar c ++ encode t := by simp [encode]

@[simp] theorem encode_append (s t : Text) : encode (s ++ t) = encode s ++ encode t := by
  simp [encode]

/-- The length of a text on the wire. -/
def byteLength (t : Text) : Nat := (encode t).length

theorem byteLength_append (s t : Text) : byteLength (s ++ t) = byteLength s + byteLength t := by
  simp [byteLength]

/-- Fills a text up with blanks on the right. -/
def padRight (n : Nat) (t : Text) : Text := t ++ List.replicate (n - t.length) ' '

end Text

end LinkCourier
