import Outbox.Charset.CodePage
import Outbox.Charset.Japanese
import Outbox.Charset.SimplifiedChinese
import Outbox.Charset.TwoByte
import Outbox.Text.Units

/-!
# Charsets

The charsets that text can be written in, one scalar at a time. Writing a scalar either yields its
bytes or nothing; a scalar that a charset does not have is replaced by a question mark, which is
written in the same way and from the same shift state. Only ISO-2022-JP has more than one shift
state; for all others the state is carried along unchanged, so that one recursion encodes them all.

## Main Definitions

* `Charset`, `Charset.name` — the charsets and their canonical names
* `Charset.step?` — one scalar, from a shift state
* `Charset.encode` — a text, with replacements and the final return to ASCII
-/

namespace Outbox

/-- The order of the two bytes of a sixteen-bit unit. -/
inductive ByteOrder where
  | little
  | big
deriving DecidableEq, Repr

/-- The two bytes of a sixteen-bit unit. -/
def ByteOrder.bytes (order : ByteOrder) (unit : Nat) : Bytes :=
  match order with
  | .little => [(unit % 0x100).toUInt8, (unit / 0x100).toUInt8]
  | .big => [(unit / 0x100).toUInt8, (unit % 0x100).toUInt8]

/-- **The charsets that text can be written in.** -/
inductive Charset where
  | utf8
  | utf16 (order : ByteOrder)
  | codePage (page : CodePage)
  | userDefined
  | big5
  | eucJp
  | iso2022Jp
  | shiftJis
  | eucKr
  | gbk
  | gb18030
deriving DecidableEq, Repr

namespace Charset

/-- The canonical name of a charset. -/
def name : Charset → String
  | .utf8 => "UTF-8"
  | .utf16 .little => "UTF-16LE"
  | .utf16 .big => "UTF-16BE"
  | .codePage page => page.name
  | .userDefined => "x-user-defined"
  | .big5 => "Big5"
  | .eucJp => "EUC-JP"
  | .iso2022Jp => "ISO-2022-JP"
  | .shiftJis => "Shift_JIS"
  | .eucKr => "EUC-KR"
  | .gbk => "GBK"
  | .gb18030 => "gb18030"

/-- The charset used where none is asked for. -/
def fallback : Charset := .utf8

/-! ### One scalar -/

/-- A scalar in the page that takes the bytes from 0x80 on to a block of private-use characters. -/
def userDefined? (c : Char) : Option UInt8 :=
  if c.toNat < 0x80 then some c.toNat.toUInt8
  else if 0xF780 ≤ c.toNat && c.toNat ≤ 0xF7FF then some (c.toNat - 0xF780 + 0x80).toUInt8
  else none

/-- **One scalar, written from a shift state**: its bytes and the state afterwards, or nothing if
the charset does not have the scalar. -/
def step? (cs : Charset) (shift : Shift) (c : Char) : Option (Bytes × Shift) :=
  match cs with
  | .utf8 => some (String.utf8EncodeChar c, shift)
  | .utf16 order => some ((Text.units c).flatMap order.bytes, shift)
  | .codePage page => (page.encode? c).map fun b => ([b], shift)
  | .userDefined => (userDefined? c).map fun b => ([b], shift)
  | .big5 => (big5? c).map (·, shift)
  | .eucJp => (eucJp? c).map (·, shift)
  | .iso2022Jp => Iso2022Jp.step? shift c
  | .shiftJis => (shiftJis? c).map (·, shift)
  | .eucKr => (eucKr? c).map (·, shift)
  | .gbk => (gbk? c).map (·, shift)
  | .gb18030 => (gb18030? c).map (·, shift)

/-- Written in place of a scalar that a charset does not have. -/
def replacement : Char := '?'

/-- One scalar or, where the charset does not have it, its replacement. -/
def put (cs : Charset) (shift : Shift) (c : Char) : Bytes × Shift :=
  (cs.step? shift c).getD ((cs.step? shift replacement).getD ([], shift))

/-- The scalar that is written for a scalar: itself, or the replacement where the charset does not
have it. -/
def standIn (cs : Charset) (c : Char) : Char :=
  if (cs.step? .ascii c).isSome then c else replacement

/-! ### Texts -/

/-- A text from a shift state on, with the return to ASCII at its end. -/
def encodeFrom (cs : Charset) (shift : Shift) : List Char → Bytes
  | [] => Iso2022Jp.finish shift
  | c :: text => (cs.put shift c).1 ++ cs.encodeFrom (cs.put shift c).2 text

/-- **A text in a charset**, every scalar that the charset does not have written as a question
mark. -/
def encode (cs : Charset) (text : String) : Bytes :=
  cs.encodeFrom .ascii text.toList

@[simp]
theorem encodeFrom_nil (cs : Charset) (shift : Shift) :
    cs.encodeFrom shift [] = Iso2022Jp.finish shift := rfl

theorem encodeFrom_cons (cs : Charset) (shift : Shift) (c : Char) (text : List Char) :
    cs.encodeFrom shift (c :: text) =
      (cs.put shift c).1 ++ cs.encodeFrom (cs.put shift c).2 text := rfl

end Charset

end Outbox
