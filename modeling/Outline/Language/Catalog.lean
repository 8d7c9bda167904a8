/-
The built-in language packs.

Every pattern of a built-in query captures the definition under its
kind and, below it, the name. Most patterns are one of two shapes: a
node with a labelled name, or a node around a declarator with one.
-/
import Outline.Language.Pack

namespace Outline.LanguagePack

open Pattern (ofKind ofKindLedBy anyNamed oneOfKinds)

-- ============================================================== shapes

/-- The pattern as a definition of a kind. -/
def defining (kind : DefinitionKind) (p : Pattern) : Pattern :=
  p.capture kind.name

/-- `label: (kind) @name`. -/
def naming (label kind : String) : Pattern :=
  ((ofKind kind).labelled label).capture nameCapture

/-- `(kind) @name`. -/
def bareNaming (kind : String) : Pattern :=
  (ofKind kind).capture nameCapture

/-- `label: (_) @name`. -/
def namingAny (label : String) : Pattern :=
  (anyNamed.labelled label).capture nameCapture

/-- `(node name: (naming) @name) @kind`. -/
def named (kind : DefinitionKind) (node nameKind : String) : Pattern :=
  defining kind (ofKind node [naming "name" nameKind])

/-- `(node name: (naming) @name body: (body)) @kind`. -/
def namedWithBody (kind : DefinitionKind) (node nameKind body : String) :
    Pattern :=
  defining kind
    (ofKind node [naming "name" nameKind, (ofKind body).labelled "body"])

/-- `(declaration (variable_declarator name: (identifier) @name))
@variable`. -/
def declaredVariable (node : String) : Pattern :=
  defining .variable
    (ofKind node [ofKind "variable_declarator" [naming "name" "identifier"]])

-- ================================================================== go

/-- A type specification whose type is of a given form. -/
def goType (kind : DefinitionKind) (form : Pattern) : Pattern :=
  defining kind
    (ofKind "type_spec" [naming "name" "type_identifier",
      form.labelled "type"])

/-- Go. -/
def go : LanguagePack where
  name := "go"
  grammarPackage := "tree-sitter-go"
  grammarModule := "tree_sitter_go"
  extensions := ["go"]
  query := .builtIn [
    named .function "function_declaration" "identifier",
    named .function "method_declaration" "field_identifier",
    goType .struct (ofKind "struct_type"),
    goType .interface (ofKind "interface_type"),
    goType .typeAlias (oneOfKinds ["type_identifier", "qualified_type",
      "generic_type", "pointer_type", "array_type", "slice_type", "map_type",
      "channel_type", "function_type"]),
    named .typeAlias "type_alias" "type_identifier",
    named .variable "const_spec" "identifier",
    named .variable "var_spec" "identifier"]
  definitionKinds := [
    ("function_declaration", .function),
    ("method_declaration", .function),
    ("type_spec", .struct),
    ("type_alias", .typeAlias),
    ("const_spec", .variable),
    ("var_spec", .variable)]
  scopeRules := {
    typeKinds := ["type_spec", "type_alias"]
    functionKinds := ["function_declaration", "method_declaration"]
    startAtSelf := true }

-- ============================================================== python

/-- Python. Only assignments at the top of a module are definitions. -/
def python : LanguagePack where
  name := "python"
  grammarPackage := "tree-sitter-python"
  grammarModule := "tree_sitter_python"
  extensions := ["py", "pyi"]
  query := .builtIn [
    named .function "function_definition" "identifier",
    named .classType "class_definition" "identifier",
    ofKind "module" [ofKind "expression_statement" [
      defining .variable (ofKind "assignment" [naming "left" "identifier"])]]]
  definitionKinds := [
    ("function_definition", .function),
    ("class_definition", .classType),
    ("assignment", .variable)]
  scopeRules := {
    typeKinds := ["class_definition"]
    functionKinds := ["function_definition"]
    stopFunctionAtType := true }

-- ================================================================ java

/-- Java. -/
def java : LanguagePack where
  name := "java"
  grammarPackage := "tree-sitter-java"
  grammarModule := "tree_sitter_java"
  extensions := ["java"]
  query := .builtIn [
    named .classType "class_declaration" "identifier",
    named .interface "interface_declaration" "identifier",
    named .interface "annotation_type_declaration" "identifier",
    named .enum "enum_declaration" "identifier",
    named .classType "record_declaration" "identifier",
    named .function "method_declaration" "identifier",
    named .function "constructor_declaration" "identifier",
    defining .variable (ofKind "field_declaration" [
      (ofKind "variable_declarator" [naming "name" "identifier"]).labelled
        "declarator"])]
  definitionKinds := [
    ("class_declaration", .classType),
    ("interface_declaration", .interface),
    ("annotation_type_declaration", .interface),
    ("enum_declaration", .enum),
    ("record_declaration", .classType),
    ("method_declaration", .function),
    ("constructor_declaration", .function),
    ("field_declaration", .variable)]
  scopeRules := {
    typeKinds := ["class_declaration", "interface_declaration",
      "enum_declaration", "record_declaration"]
    functionKinds := ["method_declaration", "constructor_declaration"]
    startAtSelf := true }

-- =========================================== javascript and typescript

/-- Functions of JavaScript in any form that has a name. -/
def scriptFunctionKinds : List String :=
  ["function_declaration", "generator_function_declaration",
    "method_definition"]

/-- JavaScript's table of definitions. -/
def scriptDefinitions : List (String × DefinitionKind) := [
  ("function_declaration", .function),
  ("generator_function_declaration", .function),
  ("class_declaration", .classType),
  ("method_definition", .function),
  ("lexical_declaration", .variable),
  ("variable_declaration", .variable)]

/-- JavaScript. -/
def javascript : LanguagePack where
  name := "javascript"
  grammarPackage := "tree-sitter-javascript"
  grammarModule := "tree_sitter_javascript"
  extensions := ["js", "jsx", "mjs", "cjs"]
  query := .builtIn [
    named .function "function_declaration" "identifier",
    named .function "generator_function_declaration" "identifier",
    named .classType "class_declaration" "identifier",
    named .function "method_definition" "property_identifier",
    declaredVariable "lexical_declaration",
    declaredVariable "variable_declaration"]
  definitionKinds := scriptDefinitions
  scopeRules := {
    typeKinds := ["class_declaration", "class"]
    functionKinds := scriptFunctionKinds
    startAtSelf := true }

/-- TypeScript. -/
def typescript : LanguagePack where
  name := "typescript"
  grammarPackage := "tree-sitter-typescript"
  grammarModule := "tree_sitter_typescript"
  grammarFunction := "language_typescript"
  extensions := ["ts", "mts", "cts"]
  query := .builtIn [
    named .function "function_declaration" "identifier",
    named .function "generator_function_declaration" "identifier",
    named .classType "class_declaration" "type_identifier",
    named .classType "abstract_class_declaration" "type_identifier",
    named .interface "interface_declaration" "type_identifier",
    named .typeAlias "type_alias_declaration" "type_identifier",
    named .enum "enum_declaration" "identifier",
    named .function "method_definition" "property_identifier",
    declaredVariable "lexical_declaration",
    declaredVariable "variable_declaration"]
  definitionKinds := scriptDefinitions ++ [
    ("abstract_class_declaration", .classType),
    ("interface_declaration", .interface),
    ("type_alias_declaration", .typeAlias),
    ("enum_declaration", .enum)]
  scopeRules := {
    typeKinds := ["class_declaration", "abstract_class_declaration",
      "interface_declaration", "class"]
    functionKinds := scriptFunctionKinds
    startAtSelf := true }

/-- TypeScript with markup, which has a grammar of its own. -/
def tsx : LanguagePack :=
  { typescript with
    name := "tsx"
    grammarFunction := "language_tsx"
    extensions := ["tsx"] }

-- ================================================================ rust

/-- Rust. -/
def rust : LanguagePack where
  name := "rust"
  grammarPackage := "tree-sitter-rust"
  grammarModule := "tree_sitter_rust"
  extensions := ["rs"]
  query := .builtIn [
    named .function "function_item" "identifier",
    named .function "function_signature_item" "identifier",
    named .struct "struct_item" "type_identifier",
    named .struct "union_item" "type_identifier",
    named .enum "enum_item" "type_identifier",
    named .interface "trait_item" "type_identifier",
    named .typeAlias "type_item" "type_identifier",
    named .variable "const_item" "identifier",
    named .variable "static_item" "identifier"]
  definitionKinds := [
    ("function_item", .function),
    ("function_signature_item", .function),
    ("struct_item", .struct),
    ("union_item", .struct),
    ("enum_item", .enum),
    ("trait_item", .interface),
    ("type_item", .typeAlias),
    ("const_item", .variable),
    ("static_item", .variable)]
  scopeRules := {
    typeKinds := ["struct_item", "enum_item", "trait_item", "impl_item"] }

-- =========================================================== c and c++

/-- A function declarator with its name. -/
def functionDeclarator (name : Pattern) : Pattern :=
  (ofKind "function_declarator" [name]).labelled "declarator"

/-- C. Only initialised variables of the file itself are definitions. -/
def c : LanguagePack where
  name := "c"
  grammarPackage := "tree-sitter-c"
  grammarModule := "tree_sitter_c"
  extensions := ["c", "h"]
  query := .builtIn [
    defining .function (ofKind "function_definition" [
      functionDeclarator (naming "declarator" "identifier")]),
    defining .function (ofKind "function_definition" [
      (ofKind "pointer_declarator" [
        functionDeclarator (naming "declarator" "identifier")]).labelled
          "declarator"]),
    namedWithBody .struct "struct_specifier" "type_identifier"
      "field_declaration_list",
    namedWithBody .struct "union_specifier" "type_identifier"
      "field_declaration_list",
    namedWithBody .enum "enum_specifier" "type_identifier" "enumerator_list",
    defining .typeAlias (ofKind "type_definition" [
      naming "declarator" "type_identifier"]),
    ofKind "translation_unit" [
      defining .variable (ofKind "declaration" [
        (ofKind "init_declarator" [
          naming "declarator" "identifier"]).labelled "declarator"])]]
  definitionKinds := [
    ("function_definition", .function),
    ("struct_specifier", .struct),
    ("union_specifier", .struct),
    ("enum_specifier", .enum),
    ("type_definition", .typeAlias),
    ("declaration", .variable)]
  scopeRules := {
    typeKinds := ["struct_specifier", "enum_specifier", "union_specifier"] }

/-- C++. -/
def cpp : LanguagePack where
  name := "cpp"
  grammarPackage := "tree-sitter-cpp"
  grammarModule := "tree_sitter_cpp"
  extensions := ["cpp", "cc", "cxx", "hpp", "hh", "hxx"]
  query := .builtIn [
    defining .function (ofKind "function_definition" [
      functionDeclarator
        (((oneOfKinds ["identifier", "field_identifier", "destructor_name",
          "operator_name"]).labelled "declarator").capture nameCapture)]),
    defining .function (ofKind "function_definition" [
      functionDeclarator
        ((ofKind "qualified_identifier" [namingAny "name"]).labelled
          "declarator")]),
    namedWithBody .classType "class_specifier" "type_identifier"
      "field_declaration_list",
    namedWithBody .struct "struct_specifier" "type_identifier"
      "field_declaration_list",
    namedWithBody .struct "union_specifier" "type_identifier"
      "field_declaration_list",
    namedWithBody .enum "enum_specifier" "type_identifier" "enumerator_list",
    named .typeAlias "alias_declaration" "type_identifier",
    defining .typeAlias (ofKind "type_definition" [
      naming "declarator" "type_identifier"])]
  definitionKinds := [
    ("function_definition", .function),
    ("class_specifier", .classType),
    ("struct_specifier", .struct),
    ("union_specifier", .struct),
    ("enum_specifier", .enum),
    ("alias_declaration", .typeAlias),
    ("type_definition", .typeAlias)]
  scopeRules := {
    typeKinds := ["class_specifier", "struct_specifier"] }

-- ================================================================== c#

/-- C#. -/
def csharp : LanguagePack where
  name := "csharp"
  grammarPackage := "tree-sitter-c-sharp"
  grammarModule := "tree_sitter_c_sharp"
  extensions := ["cs"]
  query := .builtIn [
    named .classType "class_declaration" "identifier",
    named .interface "interface_declaration" "identifier",
    named .struct "struct_declaration" "identifier",
    named .enum "enum_declaration" "identifier",
    named .classType "record_declaration" "identifier",
    named .function "method_declaration" "identifier",
    named .function "constructor_declaration" "identifier",
    named .variable "property_declaration" "identifier",
    defining .variable (ofKind "field_declaration" [
      ofKind "variable_declaration" [
        ofKindLedBy "variable_declarator" (bareNaming "identifier")]])]
  definitionKinds := [
    ("class_declaration", .classType),
    ("interface_declaration", .interface),
    ("struct_declaration", .struct),
    ("enum_declaration", .enum),
    ("record_declaration", .classType),
    ("method_declaration", .function),
    ("constructor_declaration", .function),
    ("property_declaration", .variable),
    ("field_declaration", .variable)]
  scopeRules := {
    typeKinds := ["class_declaration", "struct_declaration",
      "interface_declaration", "enum_declaration"] }

-- ================================================================ ruby

/-- `(node name: (_) @name) @kind`. -/
def namedByAny (kind : DefinitionKind) (node : String) : Pattern :=
  defining kind (ofKind node [namingAny "name"])

/-- Ruby. -/
def ruby : LanguagePack where
  name := "ruby"
  grammarPackage := "tree-sitter-ruby"
  grammarModule := "tree_sitter_ruby"
  extensions := ["rb", "rake"]
  query := .builtIn [
    namedByAny .function "method",
    namedByAny .function "singleton_method",
    namedByAny .classType "class",
    namedByAny .classType "module",
    defining .variable (ofKind "assignment" [naming "left" "constant"])]
  definitionKinds := [
    ("method", .function),
    ("singleton_method", .function),
    ("class", .classType),
    ("module", .classType),
    ("assignment", .variable)]
  scopeRules := { typeKinds := ["class", "module"] }

-- ================================================================= php

/-- PHP. -/
def php : LanguagePack where
  name := "php"
  grammarPackage := "tree-sitter-php"
  grammarModule := "tree_sitter_php"
  grammarFunction := "language_php"
  extensions := ["php"]
  query := .builtIn [
    named .function "function_definition" "name",
    named .classType "class_declaration" "name",
    named .interface "interface_declaration" "name",
    named .classType "trait_declaration" "name",
    named .enum "enum_declaration" "name",
    named .function "method_declaration" "name",
    defining .variable (ofKind "property_declaration" [
      ofKind "property_element" [
        ofKind "variable_name" [bareNaming "name"]]])]
  definitionKinds := [
    ("function_definition", .function),
    ("class_declaration", .classType),
    ("interface_declaration", .interface),
    ("trait_declaration", .classType),
    ("enum_declaration", .enum),
    ("method_declaration", .function),
    ("property_declaration", .variable)]
  scopeRules := {
    typeKinds := ["class_declaration", "interface_declaration",
      "trait_declaration"] }

-- ==================================================== kotlin and scala

/-- `(node (identifier) @name) @kind`. -/
def holdingName (kind : DefinitionKind) (node : String) : Pattern :=
  defining kind (ofKind node [bareNaming "identifier"])

/-- Kotlin, whose grammar labels no names. -/
def kotlin : LanguagePack where
  name := "kotlin"
  grammarPackage := "tree-sitter-kotlin"
  grammarModule := "tree_sitter_kotlin"
  extensions := ["kt", "kts"]
  query := .builtIn [
    holdingName .classType "class_declaration",
    holdingName .classType "object_declaration",
    holdingName .function "function_declaration",
    defining .variable (ofKind "property_declaration" [
      ofKind "variable_declaration" [bareNaming "identifier"]])]
  definitionKinds := [
    ("class_declaration", .classType),
    ("object_declaration", .classType),
    ("function_declaration", .function),
    ("property_declaration", .variable)]
  scopeRules := {
    typeKinds := ["class_declaration", "object_declaration"]
    functionKinds := ["function_declaration", "secondary_constructor"]
    startAtSelf := true }

/-- Scala. -/
def scala : LanguagePack where
  name := "scala"
  grammarPackage := "tree-sitter-scala"
  grammarModule := "tree_sitter_scala"
  extensions := ["scala", "sc"]
  query := .builtIn [
    named .function "function_definition" "identifier",
    named .classType "class_definition" "identifier",
    named .classType "object_definition" "identifier",
    named .interface "trait_definition" "identifier",
    defining .variable (ofKind "val_definition" [
      naming "pattern" "identifier"]),
    defining .variable (ofKind "var_definition" [
      naming "pattern" "identifier"])]
  definitionKinds := [
    ("function_definition", .function),
    ("class_definition", .classType),
    ("object_definition", .classType),
    ("trait_definition", .interface),
    ("val_definition", .variable),
    ("var_definition", .variable)]
  scopeRules := {
    typeKinds := ["class_definition", "object_definition", "trait_definition"]
    functionKinds := ["function_definition"]
    stopFunctionAtType := true }

-- ============================================================== lookup

/-- Every built-in pack, in the order in which they are registered. -/
def builtIn : List LanguagePack :=
  [go, python, java, javascript, typescript, tsx, rust, c, cpp, csharp, ruby,
    php, kotlin, scala]

/-- The built-in pack of a language. -/
def find? (language : String) : Option LanguagePack :=
  builtIn.find? (fun p => p.name == language)

end Outline.LanguagePack
