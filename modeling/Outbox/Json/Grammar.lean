import Outbox.Json.Number
import Outbox.Json.Text

/-!
# The grammar of a document

What may stand in a document, said of the text alone and without reading it. A value is in the
grammar or not; a string also has the characters it spells, and there may be many spellings of the
same ones. Blanks may stand around every value and every mark, and mean nothing.

## Main Definitions

* `IsNumber` — the numbers, by their parts
* `IsText`, `Spells` — what may stand in a string, and the characters it spells
* `IsValue`, `IsItems`, `IsMembers` — values, and what stands inside a list or an object
-/

namespace Outbox.Json

/-- A run of blanks, maybe none. -/
def IsBlanks (s : List Char) : Prop := ∀ c ∈ s, isBlank c = true

/-! ### Numbers -/

/-- A run of digits, at least one. -/
def IsDigits (s : List Char) : Prop := s ≠ [] ∧ ∀ c ∈ s, c.isDigit = true

/-- The digits before the point: a zero alone, or a run that does not begin with one. -/
def IsWhole (s : List Char) : Prop := s = ['0'] ∨ (IsDigits s ∧ s.head? ≠ some '0')

/-- Nothing, or a point with digits. -/
inductive IsFraction : List Char → Prop where
  | none : IsFraction []
  | some (digits : List Char) (h : IsDigits digits) : IsFraction ('.' :: digits)

/-- Nothing, or a letter with digits and maybe a sign between them. -/
inductive IsExponent : List Char → Prop where
  | none : IsExponent []
  | unsigned (e : Char) (digits : List Char) (he : e = 'e' ∨ e = 'E') (h : IsDigits digits) :
    IsExponent (e :: digits)
  | signed (e sign : Char) (digits : List Char) (he : e = 'e' ∨ e = 'E')
      (hs : sign = '+' ∨ sign = '-') (h : IsDigits digits) :
    IsExponent (e :: sign :: digits)

/-- **A number.** -/
inductive IsNumber : List Char → Prop where
  | positive (whole fraction exponent : List Char) (hw : IsWhole whole) (hf : IsFraction fraction)
      (he : IsExponent exponent) :
    IsNumber (whole ++ fraction ++ exponent)
  | negative (whole fraction exponent : List Char) (hw : IsWhole whole) (hf : IsFraction fraction)
      (he : IsExponent exponent) :
    IsNumber ('-' :: (whole ++ fraction ++ exponent))

/-! ### Strings -/

/-- Whether a character may stand for itself in a string. -/
def isPlain (c : Char) : Bool := 0x20 ≤ c.toNat && c != '"' && c != '\\'

/-- **What may stand between the quotes of a string.** -/
inductive IsText : List Char → Prop where
  | nil : IsText []
  | plain (c : Char) (rest : List Char) (hc : isPlain c = true) (h : IsText rest) :
    IsText (c :: rest)
  | letter (c : Char) (rest : List Char) (hc : (letterEscape? c).isSome) (h : IsText rest) :
    IsText ('\\' :: c :: rest)
  | unit (digits rest : List Char) (hl : digits.length = 4) (hd : (hexNumber? digits).isSome)
      (h : IsText rest) :
    IsText ('\\' :: 'u' :: (digits ++ rest))

/-- **The characters that the text of a string spells.** Escapes by number are sixteen-bit units,
and a scalar beyond the basic plane is spelled by two of them. -/
inductive Spells : List Char → List Char → Prop where
  | nil : Spells [] []
  | plain (c : Char) (text rest : List Char) (hc : isPlain c = true) (h : Spells text rest) :
    Spells (c :: text) (c :: rest)
  | letter (c d : Char) (text rest : List Char) (hc : letterEscape? c = some d)
      (h : Spells text rest) :
    Spells (d :: text) ('\\' :: c :: rest)
  | unit (c : Char) (digits text rest : List Char) (hl : digits.length = 4)
      (hd : hexNumber? digits = some c.toNat) (h : Spells text rest) :
    Spells (c :: text) ('\\' :: 'u' :: (digits ++ rest))
  | pair (c : Char) (high low : Nat) (first second text rest : List Char)
      (hc : Text.units c = [high, low]) (hf : first.length = 4) (hs : second.length = 4)
      (hh : hexNumber? first = some high) (hl : hexNumber? second = some low)
      (h : Spells text rest) :
    Spells (c :: text) ('\\' :: 'u' :: (first ++ '\\' :: 'u' :: (second ++ rest)))

/-! ### Values -/

mutual

/-- **A value**, without the blanks around it. -/
inductive IsValue : List Char → Prop where
  | null : IsValue ['n', 'u', 'l', 'l']
  | true : IsValue ['t', 'r', 'u', 'e']
  | false : IsValue ['f', 'a', 'l', 's', 'e']
  | number (s : List Char) (h : IsNumber s) : IsValue s
  | string (s : List Char) (h : IsText s) : IsValue ('"' :: (s ++ ['"']))
  | emptyList (s : List Char) (h : IsBlanks s) : IsValue ('[' :: (s ++ [']']))
  | list (s : List Char) (h : IsItems s) : IsValue ('[' :: (s ++ [']']))
  | emptyObject (s : List Char) (h : IsBlanks s) : IsValue ('\x7b' :: (s ++ ['\x7d']))
  | object (s : List Char) (h : IsMembers s) : IsValue ('\x7b' :: (s ++ ['\x7d']))

/-- The items of a list, with the commas between them. -/
inductive IsItems : List Char → Prop where
  | last (before value after : List Char) (hb : IsBlanks before) (hv : IsValue value)
      (ha : IsBlanks after) :
    IsItems (before ++ value ++ after)
  | more (before value after rest : List Char) (hb : IsBlanks before) (hv : IsValue value)
      (ha : IsBlanks after) (h : IsItems rest) :
    IsItems (before ++ value ++ after ++ ',' :: rest)

/-- The members of an object, with the commas between them. -/
inductive IsMembers : List Char → Prop where
  | last (member : List Char) (h : IsMember member) : IsMembers member
  | more (member rest : List Char) (hm : IsMember member) (h : IsMembers rest) :
    IsMembers (member ++ ',' :: rest)

/-- A member of an object: its name, a colon and its value, with blanks around all three. -/
inductive IsMember : List Char → Prop where
  | intro (before name between behind value after : List Char) (hb : IsBlanks before)
      (hn : IsText name) (hw : IsBlanks between) (hi : IsBlanks behind) (hv : IsValue value)
      (ha : IsBlanks after) :
    IsMember (before ++ '"' :: (name ++ '"' :: (between ++ ':' :: (behind ++ value ++ after))))

end

end Outbox.Json
