/-
Patterns of definition queries.

A pattern describes a node by its kind, its label and some of its
children, in order and with others allowed between them. Parts of a
pattern carry capture names, under which a match hands out the nodes
they were sent to.

Built-in queries are written as patterns with the abbreviations at the
end of this file; `toText` is their text in the query language.
-/
namespace Outline

/-- What a pattern asks of a node itself. -/
inductive NodeTest where
  /-- `_`: nothing. -/
  | any
  /-- `(_)`: that it is named. -/
  | named
  /-- `(kind)`: that it is named and of this kind. -/
  | kind (k : String)
  /-- `"text"`: that it is the keyword or punctuation `text`. -/
  | literal (text : String)
deriving DecidableEq, Repr, Inhabited

/-- A pattern. A child pattern is paired with whether it is anchored,
that is, follows the previous child with no named one between. -/
inductive Pattern where
  | node (label : Option String) (test : NodeTest) (captures : List String)
      (children : List (Bool × Pattern))
  | anyOf (label : Option String) (captures : List String)
      (alternatives : List Pattern)
deriving Repr, Inhabited

namespace Pattern

/-- The pattern with one more capture name. -/
def capture (name : String) : Pattern → Pattern
  | .node label test captures children =>
    .node label test (captures ++ [name]) children
  | .anyOf label captures alternatives =>
    .anyOf label (captures ++ [name]) alternatives

/-- The pattern with a label. -/
def labelled (name : String) : Pattern → Pattern
  | .node _ test captures children => .node (some name) test captures children
  | .anyOf _ captures alternatives => .anyOf (some name) captures alternatives

-- ================================================================ text

/-- A label in front of a pattern. -/
def labelText : Option String → String
  | some name => name ++ ": "
  | none => ""

/-- Capture names after a pattern. -/
def captureText (captures : List String) : String :=
  String.join (captures.map (" @" ++ ·))

/-- One character of a literal. -/
def literalChar (c : Char) : String :=
  if c == '"' || c == '\\' then String.ofList ['\\', c]
  else if c == '\n' then "\\n"
  else if c == '\r' then "\\r"
  else if c == '\t' then "\\t"
  else c.toString

/-- The head of a node pattern, with its closing text. -/
def testText : NodeTest → String × String
  | .any => ("_", "")
  | .named => ("(_", ")")
  | .kind k => ("(" ++ k, ")")
  | .literal s => ("\"" ++ String.join (s.toList.map literalChar) ++ "\"", "")

mutual

/-- The text of a pattern in the query language. -/
def toText : Pattern → String
  | .node label test captures children =>
    let (opening, closing) := testText test
    labelText label ++ opening ++ String.join (childTexts children) ++
      closing ++ captureText captures
  | .anyOf label captures alternatives =>
    labelText label ++ "[" ++ " ".intercalate (texts alternatives) ++ "]" ++
      captureText captures

/-- The texts of child patterns, each after a blank. -/
def childTexts : List (Bool × Pattern) → List String
  | [] => []
  | (anchored, p) :: rest =>
    (" " ++ (if anchored then ". " else "") ++ toText p) :: childTexts rest

/-- The texts of several patterns. -/
def texts : List Pattern → List String
  | [] => []
  | p :: rest => toText p :: texts rest

end

-- ======================================================= abbreviations

/-- `(kind children...)`. -/
def ofKind (kind : String) (children : List Pattern := []) : Pattern :=
  .node none (.kind kind) [] (children.map (false, ·))

/-- `(kind . first)`. -/
def ofKindLedBy (kind : String) (first : Pattern) : Pattern :=
  .node none (.kind kind) [] [(true, first)]

/-- `(_)`. -/
def anyNamed : Pattern := .node none .named [] []

/-- `[(kind) (kind) ...]`. -/
def oneOfKinds (kinds : List String) : Pattern :=
  .anyOf none [] (kinds.map (ofKind ·))

end Pattern

/-- A compiled query: its patterns, and its capture names in the order
of their first use in the text. -/
structure Query where
  patterns : List Pattern
  captureNames : List String := []
deriving Repr, Inhabited

end Outline
