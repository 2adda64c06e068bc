import CacheSteward.Text.Digit

namespace CacheSteward.Command

/-! Tables with a line around every cell.

Cells lose the blanks at their ends.  A column is as wide as its widest line and at least two
places wider than its heading.  Cells with several lines are written only when a line end is there
somewhere in the table.
-/

inductive Side where
  | left
  | right
deriving Repr, DecidableEq

def isLineEnd (c : Char) : Bool :=
  let n := c.toNat
  (10 ≤ n && n ≤ 13) || (0x1C ≤ n && n ≤ 0x1E) || n == 0x85 || n == 0x2028 || n == 0x2029

/-- The lines of a text behind what has been read of the first one.  A line end at the end of the
text starts no line. -/
def linesFrom (current : List Char) : List Char → List (List Char)
  | [] => if current.isEmpty then [] else [current]
  | '\r' :: '\n' :: rest => current :: linesFrom [] rest
  | c :: rest =>
      if isLineEnd c then current :: linesFrom [] rest else linesFrom (current ++ [c]) rest

/-- The widest part between plain line ends. -/
def cellWidth (cs : List Char) : Nat :=
  let (longest, current) := cs.foldl (fun (longest, current) c =>
    if c == '\n' || c == '\r' then (max longest current, 0) else (longest, current + 1)) (0, 0)
  max longest current

def padTo (side : Side) (width : Nat) (cs : List Char) : List Char :=
  let room := List.replicate (width - cs.length) ' '
  match side with
  | .left => cs ++ room
  | .right => room ++ cs

def dropBlankEnd (cs : List Char) : List Char := Text.trimRightWhile Text.isBlank cs

def gridRule (stroke : Char) (widths : List Nat) : List Char :=
  '+' :: widths.flatMap fun width => List.replicate (width + 2) stroke ++ ['+']

def gridLine (cells : List (List Char)) : List Char :=
  dropBlankEnd ('|' :: cells.flatMap fun cell => ' ' :: cell ++ [' ', '|'])

def gridRow (columns : List (Side × Nat)) (cells : List (List (List Char))) : List (List Char) :=
  let height := (cells.map List.length).foldl max 0
  (List.range height).map fun n =>
    gridLine ((columns.zip cells).map fun ((side, width), lines) =>
      match lines[n]? with
      | some line => padTo side width line
      | none => List.replicate width ' ')

def grid (headings : List (String × Side)) (rows : List (List String)) : String :=
  let trimmed := rows.map fun row => row.map fun cell => Text.trimWhile Text.isBlank cell.toList
  let hasLines := rows.any fun row => row.any fun cell => cell.toList.any fun c =>
    c == '\n' || c == '\r'
  let width (n : Nat) (heading : String) : Nat :=
    (trimmed.map fun row => let cell := row[n]?.getD []
      if hasLines then cellWidth cell else cell.length).foldl max (heading.length + 2)
  let columns := headings.mapIdx fun n (heading, side) => (side, width n heading)
  let widths := columns.map Prod.snd
  let split (cell : List Char) : List (List Char) := if hasLines then linesFrom [] cell else [cell]
  let body := trimmed.flatMap fun row =>
    gridRow columns (row.map split) ++ [gridRule '-' widths]
  let lines := gridRule '-' widths ::
    gridRow columns (headings.map fun (heading, _) => [heading.toList]) ++
    gridRule '=' widths :: body
  "\n".intercalate (lines.map String.ofList)

end CacheSteward.Command
