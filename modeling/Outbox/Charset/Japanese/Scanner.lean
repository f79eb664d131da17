import Outbox.Charset.Japanese
import Outbox.Steps

/-!
# Scanning ISO-2022-JP

A receiver of ISO-2022-JP knows the shift state from the bytes alone. The scanner follows it byte by
byte and tells the characters apart, each with the state it stands in; what no sender may write has
no scan. What makes one text safe to put behind another is that its scan ends where it began, in
ASCII between two characters.

## Main Definitions

* `Token` — a character as it stands in the bytes
* `Scanner`, `Scanner.step?` — the state of a scan, and one more byte
* `tokens?` — the characters of a complete run of bytes
-/

namespace Outbox.Charset.Iso2022Jp

/-- **A character as it stands in the bytes**: one byte in ASCII or Roman text, or a pair. -/
inductive Token where
  | single (shift : Shift) (byte : UInt8)
  | pair (first second : UInt8)
deriving DecidableEq, Repr

/-- The shift state that a character stands in. -/
def Token.shift : Token → Shift
  | .single shift _ => shift
  | .pair _ _ => .kanji

/-- The bytes of a character. -/
def Token.bytes : Token → Bytes
  | .single _ byte => [byte]
  | .pair first second => [first, second]

/-- Where a scan stands. -/
inductive Place where
  /-- Between two characters. -/
  | between (shift : Shift)
  /-- Behind the first byte of a pair. -/
  | inPair (first : UInt8)
  /-- Behind the escape byte. -/
  | escape
  /-- Behind the escape byte and a parenthesis. -/
  | escapeSingle
  /-- Behind the escape byte and a dollar sign. -/
  | escapeDouble
deriving DecidableEq, Repr

/-- **The state of a scan**: the characters so far, and where it stands. -/
structure Scanner where
  tokens : List Token
  place : Place
deriving DecidableEq, Repr

/-- Whether a byte may be one of a pair. -/
def isPairByte (b : UInt8) : Bool := 0x21 ≤ b && b ≤ 0x7E

/-- Whether a byte may stand for itself: below 0x80, and neither a shift nor an escape. -/
def isSingle (b : UInt8) : Bool := b < 0x80 && b != 0x0E && b != 0x0F && b != 0x1B

namespace Scanner

/-- A scan that has seen nothing. -/
def start : Scanner := ⟨[], .between .ascii⟩

/-- The scan in another place. -/
def go (s : Scanner) (place : Place) : Scanner := { s with place := place }

/-- The scan with one more character, behind which it stands in a shift state. -/
def push (s : Scanner) (token : Token) (shift : Shift) : Scanner :=
  ⟨s.tokens ++ [token], .between shift⟩

/-- **One byte**, if it may stand there. -/
def step? (s : Scanner) (b : UInt8) : Option Scanner :=
  match s.place with
  | .between shift =>
    if b = 0x1B then some (s.go .escape)
    else if shift = .kanji then
      if isPairByte b then some (s.go (.inPair b)) else none
    else if isSingle b then some (s.push (.single shift b) shift)
    else none
  | .inPair a => if isPairByte b then some (s.push (.pair a b) .kanji) else none
  | .escape =>
    if b = 0x28 then some (s.go .escapeSingle)
    else if b = 0x24 then some (s.go .escapeDouble)
    else none
  | .escapeSingle =>
    if b = 0x42 then some (s.go (.between .ascii))
    else if b = 0x4A then some (s.go (.between .roman))
    else none
  | .escapeDouble => if b = 0x42 then some (s.go (.between .kanji)) else none

/-- Some more bytes, if they may stand there. -/
def scan? (s : Scanner) (bytes : Bytes) : Option Scanner :=
  Steps.run? step? s bytes

end Scanner

/-- **The characters of a run of bytes** that begins and ends in ASCII, between two characters. -/
def tokens? (bytes : Bytes) : Option (List Token) :=
  match Scanner.start.scan? bytes with
  | some ⟨tokens, .between .ascii⟩ => some tokens
  | _ => none

end Outbox.Charset.Iso2022Jp
