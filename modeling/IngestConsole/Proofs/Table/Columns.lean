import IngestConsole.Proofs.Numeral.Grouping
import IngestConsole.Proofs.Text.Blanks
import IngestConsole.Proofs.Text.EndedLines
import IngestConsole.Table.Layout
import Mathlib

/-!
# Columns of the printed table

Every column of the table is as wide as its widest cell, and begins two blanks behind the column
before.  A printed line lacks only the blanks at its end, so that every cell stands in its column,
whatever the cells of the other columns are.
-/

set_option autoImplicit false

namespace IngestConsole.Table

open Calendar Display Text Wire

/-! ## Where a column stands -/

variable {widths : List Nat} {cells : List (List Char)}

/-- No cell is wider than its column. -/
def Fits (widths : List Nat) (cells : List (List Char)) : Prop :=
  ∀ (j w : Nat) (c : List Char), widths[j]? = some w → cells[j]? = some c → c.length ≤ w

/-- A piece of a line is a cell with the blanks behind it, and has the width of its column. -/
theorem Fits.piece (fits : Fits widths cells) {j : Nat} {piece : List Char}
    (here : (List.zipWith padRight widths cells)[j]? = some piece) :
    piece.length = widths.getD j 0
      ∧ ∀ c, cells[j]? = some c → piece = c ++ List.replicate (widths.getD j 0 - c.length) ' ' := by
  obtain ⟨w, c, width, cell, rfl⟩ := List.getElem?_zipWith_eq_some.1 here
  have narrow := fits j w c width cell
  rw [List.getD_eq_getElem?_getD, width, Option.getD_some]
  refine ⟨?_, ?_⟩
  · rw [padRight, List.length_append, List.length_replicate]
    omega
  · intro c' cell'
    rw [cell] at cell'
    rw [Option.some.inj cell', padRight]

end IngestConsole.Table
