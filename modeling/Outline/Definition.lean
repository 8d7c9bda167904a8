/-
From a match to a definition.

A definition has a kind, which is the name of the capture on it, a name
read from the source at the naming node, and a range. A match becomes a
definition or fails for one reason; where several apply, the order of
the checks in `resolve` decides.
-/
import Outline.Fault
import Outline.Match
import Outline.Text.Utf8
import Outline.Tree.Preorder

namespace Outline

/-- A range in a source, from its first point to the point behind it. -/
structure SourceRange where
  start : Point
  stop : Point
deriving DecidableEq, Repr, Inhabited

namespace SourceRange

/-- Whether the range has no negative part and ends no earlier than it
starts. -/
def wellFormed (r : SourceRange) : Bool :=
  r.start.nonnegative && r.stop.nonnegative && r.start.le r.stop

end SourceRange

/-- The range of a node. -/
def Forest.range (F : Forest) (n : NodeId) : SourceRange :=
  ⟨(F.node n).startPoint, (F.node n).endPoint⟩

/-- The bytes of a source that a node spans. -/
def Forest.span (F : Forest) (source : List UInt8) (n : NodeId) :
    List UInt8 :=
  slice source (F.node n).startByte (F.node n).endByte

/-- The names of the scopes around a definition. -/
structure Scopes where
  type : Option String := none
  function : Option String := none
deriving DecidableEq, Repr, Inhabited

/-- A named definition. -/
structure Definition where
  kind : String
  name : String
  range : SourceRange
  content : Option (List UInt8) := none
  scopes : Scopes := {}
deriving DecidableEq, Repr, Inhabited

namespace Definition

/-- The definition as structured data: content and scopes appear only
if they are known. -/
def toValue (d : Definition) : Value :=
  .object ([("definition_kind", .text d.kind), ("name", .text d.name),
      ("range", .list [.int d.range.start.row, .int d.range.start.column,
        .int d.range.stop.row, .int d.range.stop.column])] ++
    (d.content.map fun bytes => ("content", .text (Utf8.decode bytes))).toList ++
    (d.scopes.type.map fun s => ("enclosing_type", .text s)).toList ++
    (d.scopes.function.map fun s => ("enclosing_function", .text s)).toList)

end Definition

/-- Builds the definition of chosen anchors. -/
def Anchors.resolve (F : Forest) (source : List UInt8) (pattern : Int)
    (anchors : Anchors) (includeContent : Bool) (scopes : Scopes) :
    Except MatchFault Definition :=
  match anchors.definition with
  | none | some ⟨_, none⟩ => .error (.missingNode pattern "definition")
  | some ⟨kind, some definition⟩ =>
    match anchors.name with
    | none | some ⟨_, none⟩ => .error (.missingNode pattern "name")
    | some ⟨_, some naming⟩ =>
      if F.missing definition then
        .error (.missingNode pattern "definition")
      else
        let name := Utf8.decode (F.span source naming)
        if name.isEmpty then .error (.noName pattern kind)
        else
          let range := F.range definition
          if range.wellFormed then
            .ok {
              kind := kind
              name := name
              range := range
              content :=
                if includeContent then some (F.span source definition) else none
              scopes := scopes }
          else .error (.missingNode pattern "definition")

/-- Builds the definition of a match, without its scopes. -/
def Match.resolve (F : Forest) (source : List UInt8) (m : Match)
    (includeContent : Bool) (tracked : Option (Option NodeId → Bool)) :
    Except MatchFault Definition :=
  if m.captures.isEmpty then .error (.emptyMatch m.pattern)
  else
    (Anchors.select tracked m.captures).resolve F source m.pattern
      includeContent {}

end Outline
