/-
Enclosing scopes: the nearest type and function around a node.

A search climbs from a node, or from its parent, until it meets a node
it looks for. It gives up at the root, at a node made up by error
recovery, and at a node it was told to stop at.
-/
import Outline.Text.Utf8
import Outline.Tree.Forest

namespace Outline

/-- Which kinds of nodes are scopes, and how the searches behave. -/
structure ScopeRules where
  typeKinds : List String := []
  functionKinds : List String := []
  /-- The node a search starts from counts itself. -/
  startAtSelf : Bool := false
  /-- The search for a function gives up at a type. -/
  stopFunctionAtType : Bool := false
deriving DecidableEq, Repr, Inhabited

namespace Forest

variable (F : Forest)

/-- The first boundary on a chain of nodes, if no missing node comes
before or at it and no stop node before it. -/
def firstBoundary (isBoundary isStop : NodeId → Bool) :
    List NodeId → Option NodeId
  | [] => none
  | n :: rest =>
    if F.missing n then none
    else if isBoundary n then some n
    else if isStop n then none
    else firstBoundary isBoundary isStop rest

/-- The chain a search climbs: from the node itself or from its parent. -/
def searchChain (start : Option NodeId) (startAtSelf : Bool) : List NodeId :=
  if startAtSelf then F.climb start (F.size + 1)
  else F.climb (start.bind F.parent) (F.size + 1)

/-- Climbs to the nearest boundary. -/
def search (start : Option NodeId) (isBoundary : NodeId → Bool)
    (startAtSelf : Bool) (isStop : Option (NodeId → Bool)) :
    Option NodeId :=
  F.firstBoundary isBoundary (isStop.getD fun _ => false)
    (F.searchChain start startAtSelf)

/-- Whether the kind of a node is listed. -/
def kindIn (kinds : List String) (n : NodeId) : Bool :=
  kinds.contains (F.kind n)

/-- The nearest type around a node. -/
def enclosingType (rules : ScopeRules) (start : Option NodeId) :
    Option NodeId :=
  if rules.typeKinds.isEmpty then none
  else F.search start (F.kindIn rules.typeKinds) rules.startAtSelf none

/-- The nearest function around a node. -/
def enclosingFunction (rules : ScopeRules) (start : Option NodeId) :
    Option NodeId :=
  if rules.functionKinds.isEmpty then none
  else
    F.search start (F.kindIn rules.functionKinds) rules.startAtSelf
      (if rules.stopFunctionAtType then some (F.kindIn rules.typeKinds)
        else none)

-- ================================================================ names

/-- Kinds of nodes that name the scope they are in. -/
def namingKinds : List String :=
  ["identifier", "type_identifier", "constant", "name", "simple_identifier",
    "field_identifier", "property_identifier"]

/-- The node that names a scope: the one labelled `name`, else the
first child that looks like a name, else the one labelled `type`, else
the first node labelled `name` under a child. -/
def namingNode (n : NodeId) : Option NodeId :=
  F.childByField n "name" <|>
    (F.children n).find? (fun c => namingKinds.contains (F.kind c)) <|>
    F.childByField n "type" <|>
    (F.children n).findSome? (fun c => F.childByField c "name")

/-- The name of a scope; an empty one is none. -/
def scopeName (n : NodeId) : Option String := do
  let naming ← F.namingNode n
  let bytes ← (F.node naming).text
  let name := Utf8.decode bytes
  if name.isEmpty then none else some name

end Forest

end Outline
