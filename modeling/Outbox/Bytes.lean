/-!
# Bytes

A wire image is a list of bytes, the view in which framing, charsets and transports are stated.
Text enters it through UTF-8 only, one scalar at a time, so the image of a concatenation is the
concatenation of the images.
-/

namespace Outbox

/-- **A run of bytes**, in wire order. -/
abbrev Bytes := List UInt8

/-- The UTF-8 form of a list of scalars. -/
def utf8 (text : List Char) : Bytes :=
  text.flatMap String.utf8EncodeChar

@[simp]
theorem utf8_nil : utf8 [] = [] := rfl

@[simp]
theorem utf8_cons (c : Char) (text : List Char) :
    utf8 (c :: text) = String.utf8EncodeChar c ++ utf8 text := by
  simp [utf8]

@[simp]
theorem utf8_append (a b : List Char) : utf8 (a ++ b) = utf8 a ++ utf8 b := by
  simp [utf8]

/-- The UTF-8 form of a string. -/
def Bytes.ofString (s : String) : Bytes :=
  utf8 s.toList

/-- The line break that ends every line of a chunked body. -/
def crlf : Bytes := [0x0D, 0x0A]

end Outbox
