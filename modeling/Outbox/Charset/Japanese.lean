import Outbox.Bytes
import Outbox.Charset.Grid.Jis0208

/-!
# Japanese text

Three charsets write the characters of one grid. EUC-JP and Shift_JIS write each character on its
own; ISO-2022-JP keeps a shift state and announces every change of it by an escape sequence, so that
all its bytes stay below 0x80. All three write the minus sign as the full-width hyphen, and the yen
sign and the overline in the places where Roman text has backslash and tilde.

The grid's rows beyond the 94th cannot be addressed by a pair of seven-bit bytes, and its vendor
ideographs stand there a second time: Shift_JIS writes those, the others write the first ones.

## Main Definitions

* `eucJp?`, `shiftJis?` — a character in one of the two stateless charsets
* `Shift`, `Iso2022Jp.step?` — the shift states, and one character written from a shift state
-/

namespace Outbox.Charset

/-! ### Pointers into the grid -/

/-- Where EUC-JP and ISO-2022-JP write each character. -/
def jisPointers : Pointers :=
  (Grid.jis0208.restrict (· < 94)).index []

/-- Where Shift_JIS writes each character. -/
def shiftJisPointers : Pointers :=
  (Grid.jis0208.restrict fun row => row < 88 || 92 ≤ row).index []

/-- The character that is written for a character: the full-width hyphen for the minus sign. -/
def jisVariant (c : Char) : Char :=
  if c = '\u2212' then '\uFF0D' else c

/-- A pointer among the first 94 rows, the ones a pair of seven-bit bytes can address. -/
def jisPointer? (c : Char) : Option Nat :=
  (jisPointers.of? (jisVariant c)).filter (· < 94 * 94)

/-! ### Half-width katakana -/

/-- The full-width forms of the half-width katakana, from U+FF61 on. -/
def fullWidthKatakana : List Char :=
  ("。「」、・ヲァィゥェォャュョッーアイウエオカキクケコサシスセソタチツテトナニヌネノハヒフヘホマミムメモヤユヨラリルレロワン"
    ++ "゛゜").toList

/-- The place of a character among the half-width katakana. -/
def halfWidthKatakana? (c : Char) : Option Nat :=
  if 0xFF61 ≤ c.toNat && c.toNat ≤ 0xFF9F then some (c.toNat - 0xFF61) else none

/-- A character with half-width katakana made full-width. -/
def widened (c : Char) : Char :=
  ((halfWidthKatakana? c).bind fun i => fullWidthKatakana[i]?).getD c

/-! ### EUC-JP and Shift_JIS -/

/-- The single byte that both stateless charsets write: ASCII, with the yen sign and the overline
in the places of backslash and tilde. -/
def jisRoman? (c : Char) : Option UInt8 :=
  if c.toNat < 0x80 then some c.toNat.toUInt8
  else if c = '\u00A5' then some 0x5C
  else if c = '\u203E' then some 0x7E
  else none

/-- The two bytes of a pointer in EUC-JP. -/
def eucJpBytes (pointer : Nat) : Bytes :=
  [(0xA1 + pointer / 94).toUInt8, (0xA1 + pointer % 94).toUInt8]

/-- **A character in EUC-JP.** Half-width katakana are one byte behind a single shift. -/
def eucJp? (c : Char) : Option Bytes :=
  match jisRoman? c, halfWidthKatakana? c with
  | some b, _ => some [b]
  | none, some i => some [0x8E, (0xA1 + i).toUInt8]
  | none, none => (jisPointer? c).map eucJpBytes

/-- The two bytes of a pointer in Shift_JIS: rows are taken in pairs, and the row bytes leave out
the block that belongs to half-width katakana. -/
def shiftJisBytes (pointer : Nat) : Bytes :=
  let lead := pointer / 188
  let cell := pointer % 188
  [(lead + if lead < 0x1F then 0x81 else 0xC1).toUInt8,
    (cell + if cell < 0x3F then 0x40 else 0x41).toUInt8]

/-- **A character in Shift_JIS.** Half-width katakana are single bytes, and so is U+0080. -/
def shiftJis? (c : Char) : Option Bytes :=
  match jisRoman? c, halfWidthKatakana? c with
  | some b, _ => some [b]
  | none, some i => some [(0xA1 + i).toUInt8]
  | none, none =>
    if c = '\u0080' then some [0x80] else (shiftJisPointers.of? (jisVariant c)).map shiftJisBytes

/-! ### ISO-2022-JP -/

/-- **The shift states of ISO-2022-JP**: plain ASCII, Roman text with yen sign and overline, and
the two-byte grid. -/
inductive Shift where
  | ascii
  | roman
  | kanji
deriving DecidableEq, Repr

/-- The escape sequence that announces a shift state. -/
def Shift.escape : Shift → Bytes
  | .ascii => [0x1B, 0x28, 0x42]
  | .roman => [0x1B, 0x28, 0x4A]
  | .kanji => [0x1B, 0x24, 0x42]

namespace Iso2022Jp

/-- The characters that would act as shifts if they were written as they are. -/
def isShiftControl (c : Char) : Bool :=
  c = '\x0E' || c = '\x0F' || c = '\x1B'

/-- The two bytes of a pointer in the two-byte state. -/
def kanjiBytes (pointer : Nat) : Bytes :=
  [(0x21 + pointer / 94).toUInt8, (0x21 + pointer % 94).toUInt8]

/-- A character as it is written in a shift state, if that state has it. -/
def written? (shift : Shift) (c : Char) : Option Bytes :=
  match shift with
  | .ascii =>
    if c.toNat < 0x80 && !isShiftControl c then some [c.toNat.toUInt8] else none
  | .roman =>
    if c = '\\' || c = '~' || isShiftControl c then none
    else (jisRoman? c).map ([·])
  | .kanji =>
    if c.toNat < 0x80 then none else (jisPointer? (widened c)).map kanjiBytes

/-- The shift state to go to for a character that the current one lacks. -/
def home? (c : Char) : Option Shift :=
  if c.toNat < 0x80 then if isShiftControl c then none else some .ascii
  else if c = '\u00A5' || c = '\u203E' then some .roman
  else if (jisPointer? (widened c)).isSome then some .kanji
  else none

/-- **One character, written from a shift state**: directly where that state has it, and behind the
escape sequence of its own state otherwise. Nothing if no state has it. -/
def step? (shift : Shift) (c : Char) : Option (Bytes × Shift) :=
  match written? shift c with
  | some bytes => some (bytes, shift)
  | none => do
    let target ← home? c
    let bytes ← written? target c
    return (target.escape ++ bytes, target)

/-- What ends a text: a return to ASCII, unless it is there already. -/
def finish (shift : Shift) : Bytes :=
  if shift = .ascii then [] else Shift.ascii.escape

end Iso2022Jp

end Outbox.Charset
