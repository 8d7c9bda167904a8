/-
Matches: the nodes a query hands out, and the two that matter.

A match lists captures, each a name and a node. The capture called
`name` marks the node that names a definition, and the first other one
marks the definition itself; further captures are ignored.

A query engine hands out captures grouped by name, names in the order
of their first appearance. Nodes may be absent from a capture, as a
caller is free to say so.
-/
import Outline.Tree.Forest

namespace Outline

/-- A name given to a node by a pattern. -/
structure Capture where
  name : String
  node : Option NodeId
deriving DecidableEq, Repr, Inhabited

/-- One occurrence of a pattern. -/
structure Match where
  pattern : Int
  captures : List Capture
deriving DecidableEq, Repr, Inhabited

/-- The name of the capture that marks the naming node. -/
def nameCapture : String := "name"

namespace Capture

/-- Whether the capture marks the naming node. -/
def isName (c : Capture) : Bool := c.name == nameCapture

/-- The captures grouped by name: those of the first name, then those
of the next name that is left, and so on. -/
def grouped (captures : List Capture) : List Capture :=
  (captures.map (·.name)).eraseDups.flatMap fun name =>
    captures.filter (·.name == name)

end Capture

/-- The captures chosen for the definition and for its name. -/
structure Anchors where
  definition : Option Capture
  name : Option Capture
deriving DecidableEq, Repr, Inhabited

/-- Chooses the anchors: the first capture called `name`, and the first
other one on a node that `tracked` accepts. Without `tracked` every
node is accepted. -/
def Anchors.select (tracked : Option (Option NodeId → Bool))
    (captures : List Capture) : Anchors :=
  { definition := captures.find? fun c =>
      !c.isName && (match tracked with
        | none => true
        | some accepts => accepts c.node)
    name := captures.find? (·.isName) }

end Outline
