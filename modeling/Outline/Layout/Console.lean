/-
The printer of the program.

Marks are read and left out, because there are no styles on a plain
stream. Texts are wrapped to the width of a line, and tables are laid out
in it. Marks that are wrong make the printer fail.
-/
import Outline.Command.Report
import Outline.Layout.Markup
import Outline.Layout.Table

namespace Outline.Console

/-- The width of a line. -/
def width : Nat := 80

/-- What wrong marks raise. -/
def wrongMarks : Raised :=
  ⟨"MarkupError", "closing tag doesn't match any open tag"⟩

/-- A text without its marks. -/
def unmarked (s : String) : Except Raised (List Char) :=
  match Markup.plain? s with
  | some cs => .ok cs
  | none => .error wrongMarks

/-- Lines as text. -/
def ofLines (lines : List (List Char)) : String :=
  String.join (lines.map fun l => String.ofList l ++ "\n")

/-- Prints a part. -/
def print : Printer
  | .text s => do
    let cs ← unmarked s
    return ofLines (Wrap.lines width true cs)
  | .table columns rows => do
    let rows ← rows.mapM (List.mapM unmarked)
    return ofLines (Table.lines width columns rows)

end Outline.Console
