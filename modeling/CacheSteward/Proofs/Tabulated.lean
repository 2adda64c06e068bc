import CacheSteward.Command.Grid
import Mathlib.Data.List.Forall2
import Mathlib.Data.List.TakeWhile

namespace CacheSteward.Command

/-! What a table shows of its rows.

Below its headings a table is a block of lines for every row, in the order of the rows.  The first
line of a block shows the first lines of the cells, without the blanks around them.
-/

/-! ### Cells -/

/-- A cell as a table takes it. -/
def trimmed (cell : String) : List Char := Text.trimWhile Text.isBlank cell.toList

/-- A cell with blanks around it. -/
def Padded (cell shown : List Char) : Prop :=
  ∃ left right, shown = List.replicate left ' ' ++ cell ++ List.replicate right ' '

/-- A line that shows cells one after another, with a stroke around each. -/
def LineOf (cells : List (List Char)) (line : List Char) : Prop :=
  ∃ shown, List.Forall₂ Padded cells shown ∧ line = '|' :: shown.flatMap (· ++ ['|'])

/-- What the first line of a block shows of a cell: the front of its text, and all of it when there
is no line end in it. -/
def Opens (cell : String) (shown : List Char) : Prop :=
  shown <+: trimmed cell ∧ ((∀ c ∈ trimmed cell, isLineEnd c = false) → shown = trimmed cell)

end CacheSteward.Command
