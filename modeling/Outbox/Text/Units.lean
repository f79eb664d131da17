/-!
# Sixteen-bit units

A scalar is one sixteen-bit unit, or two of them where it lies beyond the basic plane. The two come
from blocks of their own, which hold no scalar, so units tell by themselves which of them go
together.

## Main Definitions

* `units` — the units of a scalar
* `isHighUnit`, `isLowUnit`, `pairScalar` — the two units of a pair, and its scalar
* `ofUnits?` — the scalars of a run of units in which every pair is whole
-/

namespace Outbox.Text

/-- Whether a unit opens a pair. -/
def isHighUnit (n : Nat) : Bool := 0xD800 ≤ n && n ≤ 0xDBFF

/-- Whether a unit closes a pair. -/
def isLowUnit (n : Nat) : Bool := 0xDC00 ≤ n && n ≤ 0xDFFF

/-- The scalar of a pair. -/
def pairScalar (high low : Nat) : Char :=
  Char.ofNat (0x10000 + (high - 0xD800) * 0x400 + (low - 0xDC00))

/-- **The units of a scalar**: itself in the basic plane, a pair above it. -/
def units (c : Char) : List Nat :=
  let n := c.toNat
  if n < 0x10000 then [n]
  else [0xD800 + (n - 0x10000) / 0x400, 0xDC00 + (n - 0x10000) % 0x400]

/-- **The scalars of a run of units**; nothing if half of a pair stands alone. -/
def ofUnits? : List Nat → Option (List Char)
  | [] => some []
  | high :: low :: rest =>
    if isHighUnit high then
      if isLowUnit low then (ofUnits? rest).map (pairScalar high low :: ·) else none
    else if isLowUnit high then none
    else (ofUnits? (low :: rest)).map (Char.ofNat high :: ·)
  | [n] => if isHighUnit n || isLowUnit n then none else some [Char.ofNat n]

end Outbox.Text
