import Outbox.Json.Fault

/-!
# Numbers in a document

A number is read for its shape first and only then for its value. Its value is a count if it is
written as a plain integer that fits into 64 bits. Everything else is a binary floating-point number
and never fits a count; one whose magnitude has no such number is not a number at all. Its first
digits make a 64-bit significand, and the digits that do not fit into it go to the exponent, or
nowhere if they stand behind the point.

## Main Definitions

* `Numeral`, `readNumeral` — the shape of a number
* `Numeral.overflows` — whether its magnitude is beyond the floating-point numbers
* `Numeral.count` — its value as a count
-/

namespace Outbox.Json

/-! ### Shape -/

/-- The sign and the digits of an exponent. -/
structure Exponent where
  negative : Bool
  digits : List Char
deriving DecidableEq, Repr

/-- **The shape of a number**: its sign, the digits before and behind its point, its exponent. -/
structure Numeral where
  negative : Bool
  whole : List Char
  fraction : Option (List Char)
  exponent : Option Exponent
deriving DecidableEq, Repr

/-- Reads one digit and all that follow it. A text that ends here has the fault that `atEnd`
says. -/
def readDigits (atEnd : Fault) (s : List Char) : Except Fault (List Char × List Char) :=
  match s with
  | [] => .error atEnd
  | c :: _ =>
    if c.isDigit then .ok (s.takeWhile Char.isDigit, s.dropWhile Char.isDigit)
    else .error .malformed

/-- Reads the digits before the point: a zero stands alone. -/
def readWhole (atEnd : Fault) : List Char → Except Fault (List Char × List Char)
  | '0' :: rest =>
    match rest.head? with
    | some c => if c.isDigit then .error .malformed else .ok (['0'], rest)
    | none => .ok (['0'], rest)
  | s => readDigits atEnd s

/-- Reads a point and the digits behind it, if a point is there. -/
def readFraction (atEnd : Fault) : List Char → Except Fault (Option (List Char) × List Char)
  | '.' :: rest => (readDigits atEnd rest).map fun (digits, rest) => (some digits, rest)
  | s => .ok (none, s)

/-- Reads the sign of an exponent, if it has one. -/
def readSign : List Char → Bool × List Char
  | '+' :: rest => (false, rest)
  | '-' :: rest => (true, rest)
  | s => (false, s)

/-- Reads an exponent, if one is there. -/
def readExponent (atEnd : Fault) : List Char → Except Fault (Option Exponent × List Char)
  | c :: rest =>
    if c = 'e' || c = 'E' then
      let (negative, rest) := readSign rest
      (readDigits atEnd rest).map fun (digits, rest) => (some ⟨negative, digits⟩, rest)
    else .ok (none, c :: rest)
  | [] => .ok (none, [])

/-- **Reads the shape of a number**, from behind its sign. -/
def readUnsigned (atEnd : Fault) (negative : Bool) (s : List Char) :
    Except Fault (Numeral × List Char) :=
  match readWhole atEnd s with
  | .error fault => .error fault
  | .ok (whole, s) =>
    match readFraction atEnd s with
    | .error fault => .error fault
    | .ok (fraction, s) =>
      match readExponent atEnd s with
      | .error fault => .error fault
      | .ok (exponent, s) => .ok (⟨negative, whole, fraction, exponent⟩, s)

/-- **Reads the shape of a number.** A text that ends inside it has the fault that `atEnd` says. -/
def readNumeral (atEnd : Fault) : List Char → Except Fault (Numeral × List Char)
  | '-' :: rest => readUnsigned atEnd true rest
  | s => readUnsigned atEnd false s

/-! ### Magnitude -/

/-- The value of a decimal digit. -/
def digitValue (c : Char) : Nat := c.toNat - 0x30

/-- The value of a run of decimal digits. -/
def decimal (digits : List Char) : Nat :=
  digits.foldl (fun n c => 10 * n + digitValue c) 0

/-- The first count that does not fit into 64 bits. -/
def wordLimit : Nat := 0x10000000000000000

/-- Takes digits into a significand for as long as it fits into 64 bits: the significand, and the
digits left over. -/
def absorb (significand : Nat) : List Char → Nat × List Char
  | [] => (significand, [])
  | c :: rest =>
    let next := 10 * significand + digitValue c
    if next < wordLimit then absorb next rest else (significand, c :: rest)

/-- The nearest number with 53 significant bits, an even one on a tie. -/
def round53 (n : Nat) : Nat :=
  let shift := n.log2 + 1 - 53
  let unit := Nat.pow 2 shift
  let low := n / unit
  let excess := 2 * (n % unit)
  if unit < excess || (unit == excess && low % 2 == 1) then (low + 1) * unit else low * unit

/-- Whether a significand times a power of ten, each rounded to 53 bits, has no floating-point
number near it: the product reaches the middle between the greatest of them and the next power of
two. -/
def isBeyondFloats (significand : Nat) (exponent : Int) : Bool :=
  if significand = 0 || exponent < 0 then false
  else if 308 < exponent then true
  else
    Nat.pow 2 1024 - Nat.pow 2 970 ≤
      round53 significand * round53 (Nat.pow 10 exponent.toNat)

/-- The greatest exponent that is computed with; a greater one decides by its sign alone. -/
def exponentLimit : Nat := 0x7FFFFFFF

/-- **Whether a number's magnitude is beyond the floating-point numbers.** -/
def Numeral.overflows (n : Numeral) : Bool :=
  let (whole, left) := absorb 0 n.whole
  let fraction := n.fraction.getD []
  let (significand, unused) := absorb whole fraction
  let start : Int := left.length - (fraction.length - unused.length : Nat)
  match n.exponent with
  | none => isBeyondFloats significand start
  | some e =>
    let size := decimal e.digits
    if exponentLimit < size then significand != 0 && !e.negative
    else isBeyondFloats significand (if e.negative then start - size else start + size)

/-! ### Counts -/

/-- **The value of a number as a count**: a plain integer below 2⁶⁴. -/
def Numeral.count (n : Numeral) : Except Fault Nat :=
  let value := decimal n.whole
  if !n.negative && n.fraction.isNone && n.exponent.isNone && value < wordLimit then .ok value
  else if n.overflows then .error .malformed
  else .error .mismatched

end Outbox.Json
