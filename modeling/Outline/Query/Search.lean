/-
Searching a forest for the patterns of a query.

A match of a pattern sends each of its parts to a node: the root of the
pattern to some node, and child patterns to children of the node above,
in order and with others allowed between. Every such assignment is a
match of its own. A pattern is finite, so the search recurses on the
pattern and looks nodes up; the forest need not be a tree.

Matches come out in the order in which they are completed: by the last
node they use, then from the outermost root, then by pattern, and
otherwise in the order of their nodes.
-/
import Outline.Match
import Outline.Query.Grammar
import Outline.Query.Pattern

namespace Outline

/-- One part of a pattern sent to a node. -/
structure Placement where
  captures : List String
  node : NodeId
deriving DecidableEq, Repr, Inhabited

/-- The parts of a pattern and where they are sent, a part before those
below it. -/
abbrev Assignment := List Placement

/-- Whether the node itself passes. -/
def NodeTest.holds (F : Forest) (n : NodeId) : NodeTest → Bool
  | .any => true
  | .named => F.named n
  | .kind k => F.named n && F.kind n == k
  | .literal s => !F.named n && F.kind n == s

/-- Whether the node has the label a pattern asks for. Under a leading
label of the grammar only the first child with it counts. -/
def Forest.hasLabel (F : Forest) (g : Grammar) (n : NodeId) :
    Option String → Bool
  | none => true
  | some label =>
    F.field n == some label &&
      (match F.parent n with
        | none => true
        | some p =>
          !g.leading.contains (F.kind p, label) ||
            F.childByField p label == some n)

/-- The children a child pattern may be sent to, each with the siblings
after it. An anchored pattern may pass over unnamed children only. -/
def Forest.candidates (F : Forest) (anchored : Bool) :
    List NodeId → List (NodeId × List NodeId)
  | [] => []
  | c :: later =>
    (c, later) ::
      if anchored && F.named c then [] else F.candidates anchored later

mutual

/-- The assignments that send the root of a pattern to a node. `outer`
are capture names given to the root from outside. -/
def Pattern.assignments (F : Forest) (g : Grammar) (outer : List String) :
    Pattern → NodeId → List Assignment
  | .node label test captures children, n =>
    if F.hasLabel g n label && test.holds F n then
      (Pattern.childAssignments F g children (F.children n)).map
        (⟨captures ++ outer, n⟩ :: ·)
    else []
  | .anyOf label captures alternatives, n =>
    if F.hasLabel g n label then
      Pattern.anyAssignments F g (captures ++ outer) alternatives n
    else []

/-- The assignments of child patterns to siblings, in order. -/
def Pattern.childAssignments (F : Forest) (g : Grammar) :
    List (Bool × Pattern) → List NodeId → List Assignment
  | [], _ => [[]]
  | (anchored, p) :: rest, siblings =>
    (F.candidates anchored siblings).flatMap fun (c, later) =>
      (Pattern.assignments F g [] p c).flatMap fun a =>
        (Pattern.childAssignments F g rest later).map (a ++ ·)

/-- The assignments of any of several patterns. -/
def Pattern.anyAssignments (F : Forest) (g : Grammar) (outer : List String) :
    List Pattern → NodeId → List Assignment
  | [], _ => []
  | p :: rest, n =>
    Pattern.assignments F g outer p n ++
      Pattern.anyAssignments F g outer rest n

end

namespace Assignment

/-- The captures of an assignment, a part before those below it. -/
def captures (a : Assignment) : List Capture :=
  a.flatMap fun p => p.captures.map (⟨·, some p.node⟩)

/-- The last node the assignment uses. -/
def last (a : Assignment) : NodeId :=
  (a.map (·.node)).foldl max 0

end Assignment

/-- An assignment with the pattern and the root it belongs to. -/
structure Occurrence where
  pattern : Nat
  root : NodeId
  assignment : Assignment
deriving DecidableEq, Repr, Inhabited

namespace Occurrence

/-- Whether one occurrence is completed no later than another: by the
last node, then by the depth of the root, then by the pattern. -/
def le (F : Forest) (x y : Occurrence) : Bool :=
  let a := x.assignment.last
  let b := y.assignment.last
  a < b || (a == b &&
    let d := F.depth x.root
    let e := F.depth y.root
    d < e || (d == e && x.pattern ≤ y.pattern))

/-- The match an occurrence is handed out as. -/
def toMatch (x : Occurrence) : Match :=
  { pattern := x.pattern
    captures := Capture.grouped x.assignment.captures }

end Occurrence

namespace Query

/-- Every occurrence of the query's patterns, roots in order. -/
def occurrences (q : Query) (F : Forest) (g : Grammar) : List Occurrence :=
  F.ids.flatMap fun root =>
    q.patterns.zipIdx.flatMap fun (p, index) =>
      (p.assignments F g [] root).map (⟨index, root, ·⟩)

/-- The matches of the query in the order they are completed. -/
def run (q : Query) (F : Forest) (g : Grammar) : List Match :=
  ((q.occurrences F g).mergeSort (Occurrence.le F)).map Occurrence.toMatch

end Query

end Outline
