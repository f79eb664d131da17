import Std.Data.HashMap

/-!
# Grids of characters

A two-byte charset arranges its characters in a grid: rows of a fixed width, addressed by one byte
for the row and one for the cell in it. A character's pointer is its position when the rows are laid
end to end. A character may stand in several cells; charsets differ in which of them they write, so
the choice is an argument of the look-up table and not a property of the grid.

## Main Definitions

* `Grid` — the rows of a charset's table
* `Grid.places` — every character with its pointer
* `Pointers`, `Grid.index` — the look-up table that takes each character to the pointer to write for
  it
-/

namespace Outbox.Charset

/-- **A grid of characters**: the width of its rows, and its rows by number. A space stands for an
empty cell. -/
structure Grid where
  width : Nat
  rows : List (Nat × String)

namespace Grid

/-- The filled cells of one row with their pointers. -/
def rowPlaces (width : Nat) (row : Nat × String) : List (Char × Nat) :=
  (row.2.toList.zipIdx (row.1 * width)).filter fun place => place.1 != ' '

/-- The filled cells of the grid with their pointers, in the order of the pointers. -/
def places (grid : Grid) : List (Char × Nat) :=
  grid.rows.flatMap (rowPlaces grid.width)

/-- The grid with only those rows whose number passes a test. -/
def restrict (grid : Grid) (keep : Nat → Bool) : Grid :=
  { grid with rows := grid.rows.filter fun row => keep row.1 }

end Grid

/-! ### Look-up -/

/-- **A look-up table** from code points to the pointers to write for them. -/
abbrev Pointers := Std.HashMap Nat Nat

/-- The pointer to write for a character. -/
def Pointers.of? (table : Pointers) (c : Char) : Option Nat := table[c.toNat]?

/-- **The look-up table of a grid.** A character that stands in several cells is found in the first
of them, except for those in `late`, which are found in the last. -/
def Grid.index (grid : Grid) (late : List Char) : Pointers :=
  grid.places.foldl
    (fun table place =>
      if late.contains place.1 then table.insert place.1.toNat place.2
      else table.insertIfNew place.1.toNat place.2)
    ∅

end Outbox.Charset
