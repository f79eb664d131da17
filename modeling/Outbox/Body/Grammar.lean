import Outbox.Bytes

/-!
# The grammar of a size line

The line in front of a chunk's data holds the data's size in hexadecimal and the chunk's
extensions. A name is a token; a value is a token where it can be one and a quoted string where it
cannot. A quoted string reaches every byte that may stand in a header line at all, so the bytes it
excludes decide which extensions can be framed.

## Main Definitions

* `isToken` — non-empty runs of token bytes
* `isQuotable` — the bytes a quoted string can hold
* `hexSize` — the size, in upper-case digits without leading zeros
* `quotedString`, `value` — the two written forms of a value
-/

namespace Outbox.Body

/-! ### Tokens and quotable bytes -/

/-- The punctuation that a token may hold: ``!#$%&'*+-.^_`|~``. -/
def tokenMarks : Bytes :=
  [0x21, 0x23, 0x24, 0x25, 0x26, 0x27, 0x2A, 0x2B, 0x2D, 0x2E, 0x5E, 0x5F, 0x60, 0x7C, 0x7E]

/-- Whether a byte may stand in a token: an ASCII letter, a digit or a token mark. -/
def isTokenByte (b : UInt8) : Bool :=
  (0x30 ≤ b && b ≤ 0x39) || (0x41 ≤ b && b ≤ 0x5A) || (0x61 ≤ b && b ≤ 0x7A) ||
    tokenMarks.contains b

/-- **A token**: a non-empty run of token bytes. -/
def isToken (bytes : Bytes) : Bool :=
  !bytes.isEmpty && bytes.all isTokenByte

/-- **A quotable byte**: a tab, or any byte from the space on except DEL. -/
def isQuotable (b : UInt8) : Bool :=
  b == 0x09 || (0x20 ≤ b && b != 0x7F)

/-! ### Sizes -/

/-- The upper-case hexadecimal digit of a number below sixteen. -/
def hexDigit (d : Nat) : UInt8 :=
  if d < 10 then UInt8.ofNat (0x30 + d) else UInt8.ofNat (0x37 + d)

/-- **A size in hexadecimal**, most significant digit first, without leading zeros. -/
def hexSize (n : Nat) : Bytes :=
  if n < 16 then [hexDigit n] else hexSize (n / 16) ++ [hexDigit (n % 16)]
termination_by n
decreasing_by omega

theorem hexSize_of_lt {n : Nat} (h : n < 16) : hexSize n = [hexDigit n] := by
  rw [hexSize, if_pos h]

theorem hexSize_of_le {n : Nat} (h : 16 ≤ n) :
    hexSize n = hexSize (n / 16) ++ [hexDigit (n % 16)] := by
  rw [hexSize, if_neg (by omega)]

/-! ### Values -/

/-- A byte inside a quoted string: a quote or a backslash is written behind a backslash. -/
def quotedByte (b : UInt8) : Bytes :=
  if b == 0x22 || b == 0x5C then [0x5C, b] else [b]

/-- A quoted string: its bytes between double quotes. -/
def quotedString (bytes : Bytes) : Bytes :=
  0x22 :: (bytes.flatMap quotedByte ++ [0x22])

/-- **A written value**: as it is if it is a token, and as a quoted string otherwise. -/
def value (bytes : Bytes) : Bytes :=
  if isToken bytes then bytes else quotedString bytes

end Outbox.Body
