/-
Results for the reader.

A result is shown as marked-up text and tables, or all results as one
piece of data. Names and paths go into the text as they are, so marks in
them count as marks. What becomes of marked-up text is up to a printer,
which may as well fail.
-/
import Outline.Batch.FileResult
import Outline.Value.Json

namespace Outline

/-- Something shown: a text that is wrapped, or rows of cells. -/
inductive Shown where
  | text (s : String)
  | table (columns : Nat) (rows : List (List String))
deriving DecidableEq, Repr, Inhabited

/-- What a printer makes of a part that is shown: the text for a stream,
or what it raises. -/
abbrev Printer := Shown → Except Raised String

-- =============================================================== results

/-- A range in one word. -/
def SourceRange.toText (r : SourceRange) : String :=
  s!"{r.start.row}:{r.start.column}-{r.stop.row}:{r.stop.column}"

/-- The scopes of a definition in one word; a name without characters
counts for nothing. -/
def Scopes.toText (s : Scopes) : String :=
  ".".intercalate ((s.type.toList ++ s.function.toList).filter
    fun name => !name.isEmpty)

/-- The row of a definition. -/
def Definition.row (scopes : Bool) (d : Definition) : List String :=
  [d.kind, d.name, d.range.toText] ++
    if scopes then [d.scopes.toText] else []

/-- What is shown of an outline: a heading and a table, if there is
anything to put into one. -/
def FileOutline.shown (scopes : Bool) (o : FileOutline) : List Shown :=
  let heading := "[bold]" ++ o.path ++ "[/bold] [dim](" ++ o.language ++
    ", " ++ toString o.definitions.length ++ " definitions)[/dim]"
  .text heading ::
    if o.definitions.isEmpty then []
    else
      [.table (if scopes then 4 else 3)
        (o.definitions.map (Definition.row scopes))]

/-- What is shown of a result. -/
def FileResult.shown (scopes : Bool) (r : FileResult) : List Shown :=
  match r.outcome with
  | .ok o => o.shown scopes
  | .error e => [.text ("[red]✗[/red] " ++ r.path ++ ": " ++ e.message)]

/-- A result as data. Durations are not measured. -/
def FileResult.toValue (r : FileResult) : Value :=
  .object [("file_path", .text r.path),
    ("structure", .ofOption (r.outline?.map FileOutline.toValue)),
    ("error", .ofOption (r.report?.map Report.toValue)),
    ("duration_ms", .int 0)]

-- ============================================================= languages

/-- The extensions of a language, sorted. -/
def Registry.extensionsOf (r : Registry) (language : String) :
    List String :=
  ((r.extensions.filter fun e => e.2 == language).map (·.1)).mergeSort
    (· ≤ ·)

/-- The languages as a table. -/
def Registry.shown (r : Registry) : Shown :=
  let usable := r.languages.map fun l =>
    [l, " ".intercalate ((r.extensionsOf l).map ("." ++ ·))]
  let failed := r.failures.map fun (l, e) =>
    [l, "[red]unavailable[/red] [dim]" ++ e.report.message ++ "[/dim]"]
  .table 2 (["language", "extensions"] :: usable ++ failed)

/-- The languages as data. -/
def Registry.toValue (r : Registry) : Value :=
  .object [
    ("languages", .object (r.languages.map fun l =>
      (l, .list ((r.extensionsOf l).map .text)))),
    ("unavailable", .object (r.failures.map fun (l, e) =>
      (l, .text e.report.message)))]

end Outline
