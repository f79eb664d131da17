import Outbox.Bytes
import Outbox.Charset.Grid.Big5
import Outbox.Charset.Grid.Hangul

/-!
# Traditional Chinese and Korean text

Big5 and EUC-KR write ASCII as it is and every other character of their grid as two bytes, the first
for the row and the second for the cell. Big5 leaves a hole in its cell bytes, between the two
halves of a row.
-/

namespace Outbox.Charset

/-- Where Big5 writes each character. Four box-drawing characters and two numerals stand in two
cells and are written in the later one. -/
def big5Pointers : Pointers :=
  Grid.big5.index ['\u2550', '\u255E', '\u2561', '\u256A', '\u5341', '\u5345']

/-- The two bytes of a Big5 pointer. -/
def big5Bytes (pointer : Nat) : Bytes :=
  let cell := pointer % 157
  [(0x81 + pointer / 157).toUInt8, (cell + if cell < 0x3F then 0x40 else 0x62).toUInt8]

/-- **A character in Big5.** -/
def big5? (c : Char) : Option Bytes :=
  if c.toNat < 0x80 then some [c.toNat.toUInt8]
  else (big5Pointers.of? c).map big5Bytes

/-- Where EUC-KR writes each character. -/
def hangulPointers : Pointers :=
  Grid.hangul.index []

/-- The two bytes of a pointer into the unified Hangul grid. -/
def eucKrBytes (pointer : Nat) : Bytes :=
  [(0x81 + pointer / 190).toUInt8, (0x41 + pointer % 190).toUInt8]

/-- **A character in EUC-KR.** -/
def eucKr? (c : Char) : Option Bytes :=
  if c.toNat < 0x80 then some [c.toNat.toUInt8]
  else (hangulPointers.of? c).map eucKrBytes

end Outbox.Charset
