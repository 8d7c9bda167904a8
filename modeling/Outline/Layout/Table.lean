/-
Tables of text.

Every column is as wide as its widest cell, and two blanks stand between
columns. A table that is too wide is narrowed at its widest columns
first; cells are then wrapped, so that a row may take several lines.
-/
import Outline.Layout.Wrap
import Outline.Number.Binary64

namespace Outline.Table

-- ============================================================== columns

/-- The blanks on both sides of a column. There are none at the edges of
the table. -/
structure Margins where
  left : Nat
  right : Nat
deriving DecidableEq, Repr, Inhabited

/-- The margins of column `i` of `count`. -/
def marginsOf (count i : Nat) : Margins :=
  { left := if i = 0 then 0 else 1
    right := if i + 1 = count then 0 else 1 }

/-- Whether a character ends a line when a text is measured. -/
def endsLine (c : Char) : Bool :=
  [0x0A, 0x0B, 0x0C, 0x0D, 0x1C, 0x1D, 0x1E, 0x85, 0x2028, 0x2029].contains
    c.toNat

/-- The columns of the widest line of a text. -/
def widest : List Char → Nat → Nat → Nat
  | [], used, most => max used most
  | c :: rest, used, most =>
    if endsLine c then widest rest 0 (max used most)
    else widest rest (used + Text.charWidth c) most

/-- The width that a cell wants of at most `limit` columns, margins
included. -/
def cellWidth (m : Margins) (limit : Nat) (cell : List Char) : Nat :=
  min limit (widest cell 0 0 + (m.left + m.right))

/-- The width that a column wants. -/
def columnWidth (m : Margins) (limit : Nat) (cells : List (List Char)) :
    Nat :=
  (cells.map (cellWidth m limit)).foldl max 0

-- ============================================================ narrowing

/-- Takes `excess` columns from the `count` columns that are `top` wide,
evenly, but from none more than `most`. -/
def reduce (top most : Nat) : Nat → Nat → List Nat → List Nat
  | _, _, [] => []
  | count, excess, w :: rest =>
    if w = top then
      let cut := min most (Binary64.roundDiv excess count)
      (w - cut) :: reduce top most (count - 1) (excess - cut) rest
    else w :: reduce top most count excess rest

/-- The width of all columns together. -/
def total (widths : List Nat) : Nat := widths.foldl (· + ·) 0

/-- Narrows the widest columns, at most down to the next ones, until the
table fits. Every step takes a column at least, so the excess is fuel
enough. -/
def narrow (limit : Nat) : Nat → List Nat → List Nat
  | 0, widths => widths
  | fuel + 1, widths =>
    let excess := total widths - limit
    if excess = 0 then widths
    else
      let top := widths.foldl max 0
      let next := (widths.filter (· != top)).foldl max 0
      narrow limit fuel
        (reduce top (min excess (top - next)) (widths.count top) excess
          widths)

/-- The columns of rows that all have `count` cells. -/
def columnsOf (count : Nat) (rows : List (List (List Char))) :
    List (List (List Char)) :=
  (List.range count).map fun i => rows.map fun row => row.getD i []

/-- The widths of columns in a table of at most `limit`. -/
def widthsFor (limit : Nat) (columns : List (List (List Char))) :
    List Nat :=
  let margins := marginsOf columns.length
  let wanted := columns.mapIdx fun i cells =>
    max 1 (columnWidth (margins i) limit cells)
  if total wanted ≤ limit then wanted
  else
    let narrowed := narrow limit (total wanted - limit) wanted
    columns.mapIdx fun i cells =>
      columnWidth (margins i) (narrowed.getD i 0) cells

-- ============================================================ rendering

/-- Blanks. -/
def blanks (n : Nat) : List Char := List.replicate n ' '

/-- The lines of a cell, each as wide as the column. -/
def cellLines (m : Margins) (width : Nat) (cell : List Char) :
    List (List Char) :=
  let inner := width - (m.left + m.right)
  if inner = 0 then []
  else
    (Wrap.lines inner false cell).map fun line =>
      blanks m.left ++ line ++ blanks (inner - Text.widthOf line) ++
        blanks m.right

/-- The lines of a row: those of its cells side by side. -/
def rowLines (widths : List Nat) (row : List (List Char)) :
    List (List Char) :=
  let margins := marginsOf widths.length
  let cells := widths.mapIdx fun i width =>
    (width, cellLines (margins i) width (row.getD i []))
  let height := (cells.map fun c => c.2.length).foldl max 1
  (List.range height).map fun k =>
    cells.flatMap fun (width, lines) => lines.getD k (blanks width)

/-- The lines of a table whose rows have `count` cells. -/
def lines (limit count : Nat) (rows : List (List (List Char))) :
    List (List Char) :=
  let widths := widthsFor limit (columnsOf count rows)
  rows.flatMap (rowLines widths)

end Outline.Table
