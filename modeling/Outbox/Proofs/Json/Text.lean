import Outbox.Json.Grammar
import Outbox.Proofs.Text.Units

/-!
# Reading strings as they are written

A string has a mark at its end, and so nothing depends on what stands behind it. What has to be seen
is that the closing quote is the first one that counts: a quote inside stands behind a backslash,
and an escape is always taken as a whole. Skipping and reading part at the escapes by number.
Skipping takes each as it comes; reading has to know at the first half of a pair that another one
belongs to it.

## Main Definitions

* `skipString_of_isText` — a text that may stand in a string is skipped up to its closing quote
* `readString_of_spells` — a spelling is read as the characters it spells
-/

namespace Outbox.Json

open Outbox.Text (isHighUnit isLowUnit pairScalar)

variable {s text digits rest : List Char} {c d : Char} {n : Nat}

/-! ### Escapes -/

/-- Four digits are read as the unit they are. -/
theorem readUnit_of_hexNumber? (four : digits.length = 4) (value : hexNumber? digits = some n)
    (rest : List Char) : readUnit (digits ++ rest) = .ok (n, rest) := by
  match digits, four with
  | [a, b, c, d], _ => simp [readUnit, value]

/-- The letter in front of four digits is no escape of its own. -/
theorem ne_of_letterEscape? (letter : letterEscape? c = some d) : c ≠ 'u' := by
  rintro rfl
  cases letter

theorem skipEscape_letter (letter : (letterEscape? c).isSome) (rest : List Char) :
    skipEscape (c :: rest) = .ok rest := by
  obtain ⟨d, letter'⟩ := Option.isSome_iff_exists.mp letter
  unfold skipEscape
  split
  · next same => cases same
  · next same =>
    cases same
    exact absurd rfl (ne_of_letterEscape? letter')
  · next same =>
    cases same
    rw [if_pos letter]

theorem skipEscape_unit (four : digits.length = 4) (hex : (hexNumber? digits).isSome)
    (rest : List Char) : skipEscape ('u' :: (digits ++ rest)) = .ok rest := by
  obtain ⟨n, value⟩ := Option.isSome_iff_exists.mp hex
  rw [skipEscape, readUnit_of_hexNumber? four value]
  rfl

theorem readEscape_letter (letter : letterEscape? c = some d) (rest : List Char) :
    readEscape (c :: rest) = .ok (d, rest) := by
  unfold readEscape
  split
  · next same => cases same
  · next same =>
    cases same
    exact absurd rfl (ne_of_letterEscape? letter)
  · next same =>
    cases same
    rw [letter]

/-- A scalar in the basic plane is read from its one unit. -/
theorem readEscape_unit (four : digits.length = 4) (value : hexNumber? digits = some c.toNat)
    (rest : List Char) : readEscape ('u' :: (digits ++ rest)) = .ok (c, rest) := by
  simp [readEscape, readNumbered, readUnit_of_hexNumber? four value, Text.not_isLowUnit_toNat,
    Text.not_isHighUnit_toNat, Char.ofNat_toNat]

/-- **A scalar beyond the basic plane is read from the two halves of its pair.** -/
theorem readEscape_pair {high low : Nat} {first second : List Char}
    (two : Text.units c = [high, low]) (four : first.length = 4) (four' : second.length = 4)
    (value : hexNumber? first = some high) (value' : hexNumber? second = some low)
    (rest : List Char) :
    readEscape ('u' :: (first ++ '\\' :: 'u' :: (second ++ rest))) = .ok (c, rest) := by
  obtain ⟨isHigh, isLow, scalar⟩ := Text.pair_of_units two
  have notLow := Text.not_isLowUnit_of_isHighUnit isHigh
  simp [readEscape, readNumbered, readUnit_of_hexNumber? four value, notLow, isHigh, word,
    readUnit_of_hexNumber? four' value', isLow, scalar]

/-! ### Strings -/

theorem skipString_quote (rest : List Char) : skipString ('"' :: rest) = .ok rest := by
  rw [skipString, if_pos rfl]

theorem skipString_plain (plain : isPlain c = true) (rest : List Char) :
    skipString (c :: rest) = skipString rest := by
  simp only [isPlain, Bool.and_eq_true, decide_eq_true_eq, bne_iff_ne] at plain
  obtain ⟨⟨atLeast, notQuote⟩, notSlash⟩ := plain
  rw [skipString, if_neg notQuote, if_neg notSlash, if_neg (Nat.not_lt.mpr atLeast)]

theorem skipString_escape (escape : skipEscape s = .ok rest) :
    skipString ('\\' :: s) = skipString rest := by
  rw [skipString, if_neg (by decide), if_pos rfl]
  split
  · next failed =>
    rw [escape] at failed
    cases failed
  · next same =>
    rw [escape] at same
    cases same
    rfl

theorem readString_quote (rest : List Char) : readString ('"' :: rest) = .ok ([], rest) := by
  rw [readString, if_pos rfl]

theorem readString_plain (plain : isPlain c = true) (rest : List Char) :
    readString (c :: rest) =
      (readString rest).map fun (text, behind) => (c :: text, behind) := by
  simp only [isPlain, Bool.and_eq_true, decide_eq_true_eq, bne_iff_ne] at plain
  obtain ⟨⟨atLeast, notQuote⟩, notSlash⟩ := plain
  rw [readString, if_neg notQuote, if_neg notSlash, if_neg (Nat.not_lt.mpr atLeast)]

theorem readString_escape (escape : readEscape s = .ok (d, rest)) :
    readString ('\\' :: s) =
      (readString rest).map fun (text, behind) => (d :: text, behind) := by
  rw [readString, if_neg (by decide), if_pos rfl]
  split
  · next failed =>
    rw [escape] at failed
    cases failed
  · next same =>
    rw [escape] at same
    cases same
    rfl

/-- **What may stand in a string is skipped up to its closing quote.** -/
theorem skipString_of_isText (h : IsText text) (rest : List Char) :
    skipString (text ++ '"' :: rest) = .ok rest := by
  induction h with
  | nil => exact skipString_quote rest
  | plain c text plain _ ih => rw [List.cons_append, skipString_plain plain, ih]
  | letter c text letter _ ih =>
    rw [List.cons_append, List.cons_append, skipString_escape (skipEscape_letter letter _), ih]
  | unit digits text four hex _ ih =>
    rw [List.cons_append, List.cons_append, List.append_assoc,
      skipString_escape (skipEscape_unit four hex _), ih]

/-- **A spelling is read as the characters it spells**, up to the closing quote. -/
theorem readString_of_spells (h : Spells text s) (rest : List Char) :
    readString (s ++ '"' :: rest) = .ok (text, rest) := by
  induction h with
  | nil => exact readString_quote rest
  | plain c text s plain _ ih =>
    rw [List.cons_append, readString_plain plain, ih]
    rfl
  | letter c d text s letter _ ih =>
    rw [List.cons_append, List.cons_append, readString_escape (readEscape_letter letter _), ih]
    rfl
  | unit c digits text s four value _ ih =>
    rw [List.cons_append, List.cons_append, List.append_assoc,
      readString_escape (readEscape_unit four value _), ih]
    rfl
  | pair c high low first second text s two four four' value value' _ ih =>
    rw [List.cons_append, List.cons_append, List.append_assoc, List.cons_append, List.cons_append,
      List.append_assoc, readString_escape (readEscape_pair two four four' value value' _), ih]
    rfl

end Outbox.Json
