/-
Language packs: everything the library knows about one language.

A pack names the grammar of its language, the file extensions it
claims, the query that finds definitions, the kinds of nodes that may
be definitions, and its scopes. A built-in query is a list of patterns;
a query from outside is a text that has yet to be read.
-/
import Outline.Match
import Outline.Query.Reader
import Outline.Scope

namespace Outline

/-- The kinds of definitions. -/
inductive DefinitionKind where
  | function
  | classType
  | struct
  | interface
  | enum
  | variable
  | typeAlias
deriving DecidableEq, Repr, Inhabited

namespace DefinitionKind

/-- Every kind. -/
def all : List DefinitionKind :=
  [function, .classType, struct, interface, enum, .variable, typeAlias]

/-- The name of a kind, which is also the capture on a definition of
that kind. -/
def name : DefinitionKind → String
  | function => "function"
  | .classType => "class"
  | struct => "struct"
  | interface => "interface"
  | enum => "enum"
  | .variable => "variable"
  | typeAlias => "type_alias"

/-- The kind of a name. -/
def ofName? (s : String) : Option DefinitionKind :=
  all.find? (fun k => k.name == s)

end DefinitionKind

/-- A query: built in, or a text to be read with the words of the
grammar. -/
inductive QuerySource where
  | builtIn (patterns : List Pattern)
  | text (text : String) (words : Vocabulary)
deriving Repr, Inhabited

namespace QuerySource

/-- The text of a query. -/
def toText : QuerySource → String
  | builtIn patterns => " ".intercalate (Pattern.texts patterns)
  | text s _ => s

/-- The compiled query, or the reason why there is none. -/
def compile : QuerySource → Except String Query
  | builtIn patterns => .ok { patterns := patterns }
  | text s words =>
    match Query.compile words s with
    | .ok q => .ok q
    | .error e => .error (e.reason s)

end QuerySource

/-- The description of one language. -/
structure LanguagePack where
  name : String
  grammarPackage : String
  grammarModule : String
  grammarFunction : String := "language"
  extensions : List String := []
  query : QuerySource := .builtIn []
  definitionKinds : List (String × DefinitionKind) := []
  scopeRules : ScopeRules := {}
deriving Repr, Inhabited

end Outline
