/-
What is known here about grammars.

Grammars are programs of their own. A pack names the module and the
function that load one, and which of them can be loaded depends on what
is installed where the program runs. A grammar's words - its node kinds,
labels and literals - matter only when a query text is read, which
rejects words the grammar does not have.
-/
namespace Outline

/-- A grammar that can be loaded. `leading` lists the kinds and labels
for which only the first child with the label can be matched. -/
structure Grammar where
  module : String
  function : String := "language"
  leading : List (String × String) := []
deriving DecidableEq, Repr, Inhabited

/-- What loads grammars: from a module and a function to the grammar, if
there is one. -/
abbrev Grammars := String → String → Option Grammar

/-- The grammars that the program is installed with. In Go, the names of
one constant specification are one labelled run, and only its head is
matched. -/
def Grammar.installed : List Grammar :=
  [{ module := "tree_sitter_go", leading := [("const_spec", "name")] },
    { module := "tree_sitter_python" },
    { module := "tree_sitter_java" },
    { module := "tree_sitter_javascript" },
    { module := "tree_sitter_rust" },
    { module := "tree_sitter_c" },
    { module := "tree_sitter_cpp" },
    { module := "tree_sitter_c_sharp" },
    { module := "tree_sitter_ruby" },
    { module := "tree_sitter_kotlin" },
    { module := "tree_sitter_scala" },
    { module := "tree_sitter_typescript", function := "language_typescript" },
    { module := "tree_sitter_typescript", function := "language_tsx" },
    { module := "tree_sitter_php", function := "language_php" }]

/-- Loads the grammars that the program is installed with. -/
def Grammars.installed : Grammars := fun module function =>
  Grammar.installed.find? fun g =>
    g.module == module && g.function == function

/-- The words of a grammar that a query may use: all, or those listed. -/
inductive Vocabulary where
  | unrestricted
  | listed (kinds fields literals : List String)
deriving DecidableEq, Repr, Inhabited

namespace Vocabulary

/-- Whether a node kind exists; the kind of error nodes always does. -/
def hasKind (v : Vocabulary) (kind : String) : Bool :=
  match v with
  | .unrestricted => true
  | .listed kinds _ _ => kind == "ERROR" || kinds.contains kind

/-- Whether a label exists. -/
def hasField (v : Vocabulary) (field : String) : Bool :=
  match v with
  | .unrestricted => true
  | .listed _ fields _ => fields.contains field

/-- Whether a keyword or punctuation exists. -/
def hasLiteral (v : Vocabulary) (text : String) : Bool :=
  match v with
  | .unrestricted => true
  | .listed _ _ literals => literals.contains text

end Vocabulary

end Outline
