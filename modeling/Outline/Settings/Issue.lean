/-
What is wrong with a settings document.

Every wrong field is an issue of its own: where it stands, what kind of
mistake it is, and the value that was found there. A check goes through
all fields and reports all issues in the order of the fields. One
mistake ends the whole check at once: a home directory that nobody can
name.
-/
import Outline.Value.Basic

namespace Outline

-- ============================================================== issues

/-- The kinds of mistakes in a settings document. -/
inductive IssueKind where
  | boolType
  | boolText
  | intType
  | intText
  | intFraction
  | intInfinite
  | intSize
  | floatType
  | floatText
  | listType
  | textType
  | textBytes
  | sectionType (expected : String)
  | choice (choices : List String)
  | refused (reason : String)
  | unknownField
deriving DecidableEq, Repr, Inhabited

/-- The choices of a message: the last two are joined by "or". -/
def choicesText : List String → String
  | [] => ""
  | [a] => s!"'{a}'"
  | [a, b] => s!"'{a}' or '{b}'"
  | a :: rest => s!"'{a}', " ++ choicesText rest

namespace IssueKind

/-- The machine-readable name of a kind. -/
def name : IssueKind → String
  | boolType => "bool_type"
  | boolText => "bool_parsing"
  | intType => "int_type"
  | intText => "int_parsing"
  | intFraction => "int_from_float"
  | intInfinite => "finite_number"
  | intSize => "int_parsing_size"
  | floatType => "float_type"
  | floatText => "float_parsing"
  | listType => "list_type"
  | textType => "string_type"
  | textBytes => "string_unicode"
  | sectionType _ => "model_type"
  | choice _ => "literal_error"
  | refused _ => "value_error"
  | unknownField => "extra_forbidden"

/-- The sentence that explains a kind. -/
def message : IssueKind → String
  | boolType => "Input should be a valid boolean"
  | boolText => "Input should be a valid boolean, unable to interpret input"
  | intType => "Input should be a valid integer"
  | intText =>
    "Input should be a valid integer, unable to parse string as an integer"
  | intFraction =>
    "Input should be a valid integer, got a number with a fractional part"
  | intInfinite => "Input should be a finite number"
  | intSize =>
    "Unable to parse input string as an integer, exceeded maximum size"
  | floatType => "Input should be a valid number"
  | floatText =>
    "Input should be a valid number, unable to parse string as a number"
  | listType => "Input should be a valid list"
  | textType => "Input should be a valid string"
  | textBytes =>
    "Input should be a valid string, unable to parse raw data as a " ++
      "unicode string"
  | sectionType s =>
    s!"Input should be a valid dictionary or instance of {s}"
  | choice choices => "Input should be " ++ choicesText choices
  | refused reason => s!"Value error, {reason}"
  | unknownField => "Extra inputs are not permitted"

end IssueKind

/-- A mistake at a place of a document. -/
structure Issue where
  location : List String
  kind : IssueKind
  found : Value
deriving Repr, Inhabited

namespace Issue

/-- The place as one text. -/
def field (i : Issue) : String := ".".intercalate i.location

/-- The same mistake seen from one level further out. -/
def under (key : String) (i : Issue) : Issue :=
  { i with location := key :: i.location }

end Issue

-- ============================================================== checks

/-- The outcome of a check: the value, or all issues, or the end of the
whole check because a home directory is unknown. -/
inductive Checked (α : Type) where
  | passed (a : α)
  | failed (issues : List Issue)
  | homeless
deriving Repr, Inhabited

namespace Checked

variable {α β : Type}

/-- A check that found one mistake at the value itself. -/
def wrong (kind : IssueKind) (found : Value) : Checked α :=
  .failed [⟨[], kind, found⟩]

/-- Changes the value of a check that passed. -/
def map (f : α → β) : Checked α → Checked β
  | .passed a => .passed (f a)
  | .failed issues => .failed issues
  | .homeless => .homeless

/-- Two checks one after the other, both of them in any case: issues of
both are kept, in order. -/
def ap (f : Checked (α → β)) (x : Checked α) : Checked β :=
  match f, x with
  | .homeless, _ => .homeless
  | _, .homeless => .homeless
  | .failed a, .failed b => .failed (a ++ b)
  | .failed a, .passed _ => .failed a
  | .passed _, .failed b => .failed b
  | .passed f, .passed a => .passed (f a)

/-- Goes on with a value that passed. -/
def andThen (x : Checked α) (f : α → Checked β) : Checked β :=
  match x with
  | .passed a => f a
  | .failed issues => .failed issues
  | .homeless => .homeless

/-- The same check, one level further out. -/
def under (key : String) : Checked α → Checked α
  | .failed issues => .failed (issues.map (Issue.under key))
  | x => x

/-- Checks the items of a list, each under its position. -/
def items (check : Value → Checked α) : Nat → List Value → Checked (List α)
  | _, [] => .passed []
  | i, v :: rest =>
    (((check v).under (toString i)).map List.cons).ap
      (items check (i + 1) rest)

end Checked

end Outline
