import Outbox.Json.Grammar
import Outbox.Json.Value

/-!
# Reading numbers as they are written

A number has no mark at its end. It ends where no character follows that could go on with it, and so
do its parts: the digits before the point end at a point, those behind it at the letter of an
exponent. Read from the front, a number in the grammar is read to its end and no further, provided
that what stands behind it does not go on with it. Blanks, commas and closing brackets do not, and
nothing else can stand behind a value.

## Main Definitions

* `Breaks` — the texts that do not go on with a number in front of them
* `skipNumber_of_isNumber` — a number in the grammar is skipped
* `readCount_of_toDigits` — the decimals of a count are read as that count
-/

namespace Outbox.Json

variable {s digits whole fraction exponent : List Char} {c : Char} {atEnd : Fault}

/-! ### Blanks -/

theorem skipBlanks_append (h : IsBlanks digits) : skipBlanks (digits ++ s) = skipBlanks s :=
  List.dropWhile_append_of_pos h

theorem skipBlanks_cons (h : isBlank c = false) : skipBlanks (c :: s) = c :: s :=
  List.dropWhile_cons_of_neg (by simp [h])

/-- Behind blanks the text goes on where it would without them. -/
theorem skipBlanks_append_cons (h : IsBlanks digits) (mark : isBlank c = false) :
    skipBlanks (digits ++ c :: s) = c :: s := by
  rw [skipBlanks_append h, skipBlanks_cons mark]

/-! ### Where a number ends -/

/-- Whether a number could go on with a character. -/
def goesOn (c : Char) : Bool := c.isDigit || c = '.' || c = 'e' || c = 'E'

/-- **A text that does not go on with a number in front of it.** -/
def Breaks (s : List Char) : Prop := ∀ c ∈ s.head?, goesOn c = false

/-- A text that does not go on with digits in front of it. -/
def NoDigit (s : List Char) : Prop := ∀ c ∈ s.head?, c.isDigit = false

/-- A text that goes on with neither digits nor a point in front of it. -/
def NoFraction (s : List Char) : Prop := NoDigit s ∧ s.head? ≠ some '.'

theorem goesOn_of_isBlank (blank : isBlank c = true) : goesOn c = false := by
  simp only [isBlank, Bool.or_eq_true, decide_eq_true_eq] at blank
  rcases blank with ((rfl | rfl) | rfl) | rfl <;> rfl

/-- A text that begins with blanks breaks a number if the rest of it does. -/
theorem Breaks.append (h : IsBlanks digits) (breaks : Breaks s) : Breaks (digits ++ s) := by
  cases digits with
  | nil => exact breaks
  | cons c rest =>
    rintro d ⟨⟩
    exact goesOn_of_isBlank (h c List.mem_cons_self)

theorem breaks_cons (mark : goesOn c = false) : Breaks (c :: s) := by
  rintro d ⟨⟩
  exact mark

theorem Breaks.noFraction (breaks : Breaks s) : NoFraction s := by
  constructor
  · intro c first
    have none := breaks c first
    simp only [goesOn, Bool.or_eq_false_iff] at none
    exact none.1.1.1
  · intro first
    exact absurd (breaks '.' first) (by decide)

/-! ### Parts -/

/-- **A run of digits is read to its end.** -/
theorem readDigits_of_isDigits (atEnd : Fault) (h : IsDigits digits) (stop : NoDigit s) :
    readDigits atEnd (digits ++ s) = .ok (digits, s) := by
  have none : s.takeWhile Char.isDigit = [] ∧ s.dropWhile Char.isDigit = s := by
    cases s with
    | nil => exact ⟨rfl, rfl⟩
    | cons c rest => simp [stop c rfl]
  have taken : (digits ++ s).takeWhile Char.isDigit = digits := by
    rw [List.takeWhile_append_of_pos h.2, none.1, List.append_nil]
  have left : (digits ++ s).dropWhile Char.isDigit = s := by
    rw [List.dropWhile_append_of_pos h.2, none.2]
  cases digits with
  | nil => exact absurd rfl h.1
  | cons c rest =>
    rw [List.cons_append] at taken left ⊢
    rw [readDigits, if_pos (h.2 c List.mem_cons_self), taken, left]

/-- The digits before the point are read to their end. -/
theorem readWhole_of_isWhole (h : IsWhole whole) (stop : NoDigit s) :
    readWhole atEnd (whole ++ s) = .ok (whole, s) := by
  rcases h with rfl | ⟨digits, noZero⟩
  · cases s with
    | nil => rfl
    | cons c rest =>
      have other : c.isDigit = false := stop c rfl
      simp [readWhole, other]
  · have read := readDigits_of_isDigits atEnd digits stop
    unfold readWhole
    split
    · next rest same =>
      cases whole with
      | nil => exact absurd rfl digits.1
      | cons c tail =>
        cases same
        exact absurd rfl noZero
    · exact read

theorem readFraction_of_noFraction (stop : NoFraction s) :
    readFraction atEnd s = .ok (none, s) := by
  unfold readFraction
  split
  · next rest => exact absurd rfl stop.2
  · rfl

theorem readFraction_of_isFraction (atEnd : Fault) (h : IsFraction fraction) (stop : NoFraction s) :
    ∃ digits, readFraction atEnd (fraction ++ s) = .ok (digits, s) := by
  cases h with
  | none => exact ⟨none, readFraction_of_noFraction stop⟩
  | some digits h =>
    refine ⟨some digits, ?_⟩
    rw [List.cons_append, readFraction, readDigits_of_isDigits atEnd h stop.1]
    rfl

theorem readExponent_of_breaks (stop : Breaks s) : readExponent atEnd s = .ok (none, s) := by
  cases s with
  | nil => rfl
  | cons c rest =>
    have none := stop c rfl
    simp only [goesOn, Bool.or_eq_false_iff] at none
    simp [readExponent, none.1.2, none.2]

/-- Digits have no sign in front of them. -/
theorem readSign_of_isDigits (h : IsDigits digits) :
    readSign (digits ++ s) = (false, digits ++ s) := by
  cases digits with
  | nil => exact absurd rfl h.1
  | cons c rest =>
    have digit := h.2 c List.mem_cons_self
    rw [List.cons_append]
    unfold readSign
    split
    · next same =>
      cases same
      exact absurd digit (by decide)
    · next same =>
      cases same
      exact absurd digit (by decide)
    · rfl

theorem readExponent_of_isExponent (atEnd : Fault) (h : IsExponent exponent) (stop : Breaks s) :
    ∃ e, readExponent atEnd (exponent ++ s) = .ok (e, s) := by
  have stop' := stop.noFraction.1
  cases h with
  | none => exact ⟨none, readExponent_of_breaks stop⟩
  | unsigned e digits he h =>
    refine ⟨some ⟨false, digits⟩, ?_⟩
    rw [List.cons_append, readExponent, if_pos (by simpa using he), readSign_of_isDigits h]
    dsimp only
    rw [readDigits_of_isDigits atEnd h stop']
    rfl
  | signed e sign digits he hs h =>
    refine ⟨some ⟨sign = '-', digits⟩, ?_⟩
    rw [List.cons_append, List.cons_append, readExponent, if_pos (by simpa using he)]
    rcases hs with rfl | rfl
    · rw [readSign]
      dsimp only
      rw [readDigits_of_isDigits atEnd h stop']
      rfl
    · rw [readSign]
      dsimp only
      rw [readDigits_of_isDigits atEnd h stop']
      rfl

/-! ### Whole numbers -/

/-- What begins with a fraction or an exponent, or breaks a number, goes on with no digit. -/
theorem noDigit_of_isFraction (h : IsFraction fraction) (stop : NoDigit s) :
    NoDigit (fraction ++ s) := by
  cases h with
  | none => exact stop
  | some digits =>
    rintro c ⟨⟩
    rfl

theorem noFraction_of_isExponent (h : IsExponent exponent) (stop : Breaks s) :
    NoFraction (exponent ++ s) := by
  cases h with
  | none => exact stop.noFraction
  | unsigned e digits he =>
    rcases he with rfl | rfl <;> exact ⟨by rintro c ⟨⟩; rfl, by simp⟩
  | signed e sign digits he =>
    rcases he with rfl | rfl <;> exact ⟨by rintro c ⟨⟩; rfl, by simp⟩

/-- **The parts of a number are read one after the other.** -/
theorem readUnsigned_of_parts (atEnd : Fault) (hw : IsWhole whole)
    (hf : IsFraction fraction) (he : IsExponent exponent) (stop : Breaks s) (negative : Bool) :
    ∃ n, readUnsigned atEnd negative (whole ++ fraction ++ exponent ++ s) = .ok (n, s) := by
  have afterFraction := noFraction_of_isExponent he stop
  have afterWhole := noDigit_of_isFraction hf afterFraction.1
  obtain ⟨digits, readsFraction⟩ := readFraction_of_isFraction atEnd hf afterFraction
  obtain ⟨e, readsExponent⟩ := readExponent_of_isExponent atEnd he stop
  refine ⟨⟨negative, whole, digits, e⟩, ?_⟩
  simp only [List.append_assoc, readUnsigned, readWhole_of_isWhole hw afterWhole, readsFraction,
    readsExponent]

/-- The digits before the point begin with a digit. -/
theorem exists_digit_of_isWhole (h : IsWhole whole) :
    ∃ c rest, whole = c :: rest ∧ c.isDigit = true := by
  rcases h with rfl | ⟨⟨notNil, digits⟩, -⟩
  · exact ⟨'0', [], rfl, rfl⟩
  · obtain ⟨c, rest, rfl⟩ := List.exists_cons_of_ne_nil notNil
    exact ⟨c, rest, rfl, digits c List.mem_cons_self⟩

/-- A number that begins with digits has no sign. -/
theorem readNumeral_of_isWhole (h : IsWhole whole) (s : List Char) :
    readNumeral atEnd (whole ++ s) = readUnsigned atEnd false (whole ++ s) := by
  obtain ⟨c, rest, rfl, digit⟩ := exists_digit_of_isWhole h
  rw [List.cons_append]
  unfold readNumeral
  split
  · next same =>
    cases same
    exact absurd digit (by decide)
  · rfl

/-- **A number in the grammar is skipped**, and nothing behind it. -/
theorem skipNumber_of_isNumber {n : List Char} (h : IsNumber n) (stop : Breaks s) :
    skipNumber (n ++ s) = .ok s := by
  cases h with
  | positive whole fraction exponent hw hf he =>
    obtain ⟨n, read⟩ := readUnsigned_of_parts .malformed hw hf he stop false
    rw [skipNumber, List.append_assoc, List.append_assoc, readNumeral_of_isWhole hw,
      ← List.append_assoc, ← List.append_assoc, read]
    rfl
  | negative whole fraction exponent hw hf he =>
    obtain ⟨n, read⟩ := readUnsigned_of_parts .malformed hw hf he stop true
    rw [skipNumber, List.cons_append, readNumeral, read]
    rfl

/-- A number begins as numbers do. -/
theorem exists_start_of_isNumber {n : List Char} (h : IsNumber n) :
    ∃ c rest, n = c :: rest ∧ startsNumber c = true := by
  cases h with
  | positive whole fraction exponent hw =>
    obtain ⟨c, rest, rfl, digit⟩ := exists_digit_of_isWhole hw
    exact ⟨c, rest ++ fraction ++ exponent, by simp, by simp [startsNumber, digit]⟩
  | negative whole fraction exponent => exact ⟨'-', _, rfl, rfl⟩

/-! ### Counts -/

/-- The decimals of a count begin with no zero, unless it is zero. -/
theorem head?_toDigits {n : Nat} (positive : n ≠ 0) : (Nat.toDigits 10 n).head? ≠ some '0' := by
  induction n using Nat.strongRecOn with
  | ind n ih =>
    by_cases short : n < 10
    · rw [Nat.toDigits_of_lt_base short]
      have digits : ∀ d < 10, d ≠ 0 → [d.digitChar].head? ≠ some '0' := by decide
      exact digits n short positive
    · -- a longer number begins as its tenth does
      have tenth := ih (n / 10) (Nat.div_lt_self (by omega) (by decide)) (by omega)
      obtain ⟨c, rest, same⟩ := List.exists_cons_of_ne_nil (Nat.toDigits_ne_nil (b := 10)
        (n := n / 10))
      rw [same] at tenth
      rw [Nat.toDigits_of_base_le (by decide) (Nat.le_of_not_lt short), same]
      exact tenth

/-- The decimals of a count are a number's digits before the point. -/
theorem isWhole_toDigits (n : Nat) : IsWhole (Nat.toDigits 10 n) := by
  by_cases zero : n = 0
  · rw [zero]
    exact Or.inl (Nat.toDigits_zero 10)
  · exact Or.inr ⟨⟨Nat.toDigits_ne_nil,
      fun _ => Nat.isDigit_of_mem_toDigits (by decide) (by decide)⟩, head?_toDigits zero⟩

theorem isNumber_toDigits (n : Nat) : IsNumber (Nat.toDigits 10 n) := by
  have isNumber := IsNumber.positive _ [] [] (isWhole_toDigits n) .none .none
  rwa [List.append_nil, List.append_nil] at isNumber

/-- The decimals of a count have its value. -/
theorem decimal_toDigits (n : Nat) : decimal (Nat.toDigits 10 n) = n := by
  have value := Nat.ofDigitChars_ten_toDigits (n := n)
  rwa [Nat.ofDigitChars_eq_foldl] at value

theorem isBlank_eq_false_of_startsNumber (starts : startsNumber c = true) :
    isBlank c = false := by
  rw [← Bool.not_eq_true]
  intro blank
  simp only [isBlank, Bool.or_eq_true, decide_eq_true_eq] at blank
  rcases blank with ((rfl | rfl) | rfl) | rfl <;> exact absurd starts (by decide)

/-- **The decimals of a count are read as that count**, if it fits into 64 bits. -/
theorem readCount_of_toDigits {n : Nat} (fits : n < wordLimit) (stop : Breaks s) :
    readCount (Nat.toDigits 10 n ++ s) = .ok (n, s) := by
  have isWhole := isWhole_toDigits n
  have read : readNumeral .truncated (Nat.toDigits 10 n ++ s) =
      .ok (⟨false, Nat.toDigits 10 n, none, none⟩, s) := by
    rw [readNumeral_of_isWhole isWhole]
    simp only [readUnsigned, readWhole_of_isWhole isWhole stop.noFraction.1,
      readFraction_of_noFraction stop.noFraction, readExponent_of_breaks stop]
  have value : Numeral.count ⟨false, Nat.toDigits 10 n, none, none⟩ = .ok n := by
    simp [Numeral.count, decimal_toDigits, fits]
  obtain ⟨c, rest, same, digit⟩ := exists_digit_of_isWhole isWhole
  have starts : startsNumber c = true := by simp [startsNumber, digit]
  rw [same, List.cons_append] at read ⊢
  rw [readCount, skipBlanks_cons (isBlank_eq_false_of_startsNumber starts)]
  simp only [starts, if_true, read]
  rw [← same, value]
  rfl

end Outbox.Json
