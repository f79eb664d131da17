import Outbox.Text.Units

/-!
# A run of units falls apart into its scalars in one way

One unit of a scalar alone is never half of a pair, and the two of a pair are, the first one a half
of its own kind and the second one of the other. So whoever reads units knows at the first of them
whether another one belongs to it.

## Main Definitions

* `Text.units_cases` — a scalar has one unit, which is no half, or the two halves of a pair
* `Text.ofUnits?_flatMap_units` — the units of a text are read as that text
-/

namespace Outbox.Text

/-- The scalars leave out the block that the halves of pairs are from. -/
theorem toNat_valid (c : Char) : c.toNat < 0xD800 ∨ 0xDFFF < c.toNat ∧ c.toNat < 0x110000 :=
  c.valid

/-- A scalar in the basic plane is no half of a pair. -/
theorem not_isHighUnit_toNat (c : Char) : isHighUnit c.toNat = false := by
  have valid := toNat_valid c
  simp only [isHighUnit, Bool.and_eq_false_iff, decide_eq_false_iff_not]
  omega

theorem not_isLowUnit_toNat (c : Char) : isLowUnit c.toNat = false := by
  have valid := toNat_valid c
  simp only [isLowUnit, Bool.and_eq_false_iff, decide_eq_false_iff_not]
  omega

/-- **A scalar has one unit, itself, or the two halves of a pair.** -/
theorem units_cases (c : Char) :
    units c = [c.toNat] ∨
      ∃ high low, units c = [high, low] ∧ isHighUnit high = true ∧ isLowUnit low = true ∧
        pairScalar high low = c := by
  simp only [units]
  split
  · exact Or.inl rfl
  · next beyond =>
    have valid := toNat_valid c
    refine Or.inr ⟨_, _, rfl, ?_, ?_, ?_⟩
    · simp only [isHighUnit, Bool.and_eq_true, decide_eq_true_eq]
      omega
    · simp only [isLowUnit, Bool.and_eq_true, decide_eq_true_eq]
      omega
    · rw [pairScalar, show 0x10000 + (0xD800 + (c.toNat - 0x10000) / 0x400 - 0xD800) * 0x400 +
        (0xDC00 + (c.toNat - 0x10000) % 0x400 - 0xDC00) = c.toNat by omega, Char.ofNat_toNat]

/-- Two units of a scalar are the halves of its pair. -/
theorem pair_of_units {c : Char} {high low : Nat} (two : units c = [high, low]) :
    isHighUnit high = true ∧ isLowUnit low = true ∧ pairScalar high low = c := by
  rcases units_cases c with one | ⟨high', low', same, isHigh, isLow, scalar⟩
  · rw [one] at two
    cases two
  · rw [same] at two
    cases two
    exact ⟨isHigh, isLow, scalar⟩

/-- The first half of a pair is not a second half as well. -/
theorem not_isLowUnit_of_isHighUnit {n : Nat} (high : isHighUnit n = true) :
    isLowUnit n = false := by
  simp only [isHighUnit, Bool.and_eq_true, decide_eq_true_eq] at high
  simp only [isLowUnit, Bool.and_eq_false_iff, decide_eq_false_iff_not]
  omega

/-- A unit that is no half of a pair is read as the scalar it is. -/
theorem ofUnits?_cons_toNat (c : Char) (rest : List Nat) :
    ofUnits? (c.toNat :: rest) = (ofUnits? rest).map (c :: ·) := by
  cases rest <;> simp [ofUnits?, not_isHighUnit_toNat, not_isLowUnit_toNat, Char.ofNat_toNat]

/-- **Behind the units of a scalar the rest is read as though it stood alone.** -/
theorem ofUnits?_units_append (c : Char) (rest : List Nat) :
    ofUnits? (units c ++ rest) = (ofUnits? rest).map (c :: ·) := by
  rcases units_cases c with one | ⟨high, low, two, isHigh, isLow, scalar⟩
  · rw [one]
    exact ofUnits?_cons_toNat c rest
  · rw [two, List.cons_append, List.cons_append, List.nil_append, ofUnits?, if_pos isHigh,
      if_pos isLow, scalar]

/-- **The units of a text are read as that text.** -/
theorem ofUnits?_flatMap_units (text : List Char) :
    ofUnits? (text.flatMap units) = some text := by
  induction text with
  | nil => rfl
  | cons c text ih => rw [List.flatMap_cons, ofUnits?_units_append, ih, Option.map_some]

theorem lt_of_mem_units {c : Char} {n : Nat} (h : n ∈ units c) : n < 0x10000 := by
  have valid := toNat_valid c
  simp only [units] at h
  split at h <;> simp only [List.mem_cons, List.not_mem_nil, or_false] at h <;> omega

end Outbox.Text
