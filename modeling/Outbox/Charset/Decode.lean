import Outbox.Charset

/-!
# Reading texts back

The Unicode charsets and the charsets of single bytes are read back here, strictly: bytes that no
text is written as have no reading. The Unicode charsets have every scalar, so nothing is lost in
them; in a charset of single bytes each byte is one character, so a text and its bytes go side by
side.

## Main Definitions

* `ofUtf8?`, `ByteOrder.decode?` — the text of its UTF-8 and of its UTF-16 form
* `Charset.ofByte?`, `Charset.isSingleByte` — the charsets of single bytes, read byte by byte
* `Charset.repertoire`, `Charset.shown` — the characters of such a charset, and a text with all
  others replaced
-/

namespace Outbox

/-- **A text from its UTF-8 form**, read strictly. -/
def ofUtf8? (bytes : Bytes) : Option (List Char) :=
  (ByteArray.utf8Decode? ⟨bytes.toArray⟩).map Array.toList

namespace ByteOrder

/-- A sixteen-bit unit from its two bytes. -/
def unit (order : ByteOrder) (a b : UInt8) : Nat :=
  match order with
  | .little => a.toNat + 0x100 * b.toNat
  | .big => 0x100 * a.toNat + b.toNat

/-- The sixteen-bit units of a run of bytes, if it has whole ones only. -/
def units? (order : ByteOrder) : Bytes → Option (List Nat)
  | [] => some []
  | [_] => none
  | a :: b :: rest => (order.units? rest).map (order.unit a b :: ·)

/-- **A text from its UTF-16 form** in this byte order, read strictly. A mark of the byte order is a
character like any other. -/
def decode? (order : ByteOrder) (bytes : Bytes) : Option (List Char) :=
  (order.units? bytes).bind Text.ofUnits?

end ByteOrder

namespace Charset

/-- Whether every character of the charset is one byte. -/
def isSingleByte : Charset → Bool
  | .codePage _ => true
  | .userDefined => true
  | _ => false

/-- The character of a byte in the page that takes the bytes from 0x80 on to a block of private-use
characters. -/
def userDefinedChar (b : UInt8) : Char :=
  if b < 0x80 then Char.ofNat b.toNat else Char.ofNat (0xF780 + (b.toNat - 0x80))

/-- **The character of a byte**, in the charsets of single bytes. -/
def ofByte? : Charset → UInt8 → Option Char
  | .codePage page, b => page.decode? b
  | .userDefined, b => some (userDefinedChar b)
  | _, _ => none

/-- The characters that the bytes of a charset stand for. -/
def repertoire (cs : Charset) : List Char :=
  (List.range 0x100).filterMap fun n => cs.ofByte? n.toUInt8

/-- **A text as a charset shows it**: every character that no byte stands for is a question mark. -/
def shown (cs : Charset) (text : List Char) : List Char :=
  text.map fun c => if cs.repertoire.contains c then c else replacement

end Charset

end Outbox
