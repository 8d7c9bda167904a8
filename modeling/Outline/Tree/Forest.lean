/-
Syntax trees as indexed forests.

Grammars are outside this library: what they produce arrives as a list
of nodes that refer to each other by index. Nothing is promised about
the links. Error recovery flags nodes as missing, and a caller may hand
in nodes whose parents, children and fields do not agree, so each link
is read exactly as given and an index beyond the list names a blank
node.

A point is a row and a column in bytes; only newline bytes end a row.
-/
namespace Outline

/-- A zero-based row and column, the column in bytes. -/
structure Point where
  row : Int
  column : Int
deriving DecidableEq, Repr, Inhabited

namespace Point

/-- Reading order: by row, then by column. -/
def le (p q : Point) : Bool :=
  p.row < q.row || (p.row == q.row && p.column ≤ q.column)

/-- Whether neither part is negative. -/
def nonnegative (p : Point) : Bool :=
  0 ≤ p.row && 0 ≤ p.column

/-- The byte that ends a row. -/
def newline : UInt8 := 10

/-- The point of a byte offset: the number of newlines before it, and
the number of bytes since the last of them. -/
def ofOffset (source : List UInt8) (offset : Nat) : Point :=
  let before := source.take offset
  { row := before.count newline
    column := (before.reverse.takeWhile (· != newline)).length }

end Point

/-- A node is named by its index. -/
abbrev NodeId := Nat

/-- A node of a syntax tree. `field` is the label it has under its
parent, and `fields` leads from labels to nodes below it. -/
structure Node where
  kind : String := "node"
  named : Bool := true
  missing : Bool := false
  field : Option String := none
  startByte : Int := 0
  endByte : Int := 0
  startPoint : Point := ⟨0, 0⟩
  endPoint : Point := ⟨0, 0⟩
  parent : Option NodeId := none
  children : List NodeId := []
  fields : List (String × NodeId) := []
  text : Option (List UInt8) := none
deriving DecidableEq, Repr, Inhabited

/-- A list of nodes that refer to each other by index. -/
structure Forest where
  nodes : Array Node
deriving Repr, Inhabited

namespace Forest

variable (F : Forest)

/-- The number of nodes. -/
def size : Nat := F.nodes.size

/-- The node of an index. -/
def node (n : NodeId) : Node := F.nodes.getD n {}

/-- The kind of a node. -/
def kind (n : NodeId) : String := (F.node n).kind

/-- Whether a node is named, as keywords and punctuation are not. -/
def named (n : NodeId) : Bool := (F.node n).named

/-- Whether error recovery made the node up. -/
def missing (n : NodeId) : Bool := (F.node n).missing

/-- The label a node has under its parent. -/
def field (n : NodeId) : Option String := (F.node n).field

/-- The parent of a node. -/
def parent (n : NodeId) : Option NodeId := (F.node n).parent

/-- The children of a node, in order. -/
def children (n : NodeId) : List NodeId := (F.node n).children

/-- The node a label leads to. -/
def childByField (n : NodeId) (label : String) : Option NodeId :=
  (F.node n).fields.lookup label

/-- The nodes from the root of a tree down the list. -/
def ids : List NodeId := List.range F.size

/-- The nodes met by following parents from `start`, that one first;
`fuel` bounds their number. -/
def climb (start : Option NodeId) : (fuel : Nat) → List NodeId
  | 0 => []
  | fuel + 1 =>
    match start with
    | none => []
    | some n => n :: climb (F.parent n) fuel

/-- The proper ancestors of a node, nearest first. Parent links without a
cycle never visit a node twice, so the size of the forest, and one more
for an index beyond it, bounds the climb. -/
def ancestors (n : NodeId) : List NodeId :=
  F.climb (F.parent n) (F.size + 1)

/-- The number of proper ancestors. -/
def depth (n : NodeId) : Nat := (F.ancestors n).length

/-- Parent links have no cycle: some rank falls at every step up. -/
def Acyclic : Prop :=
  ∃ rank : NodeId → Nat, ∀ n p, F.parent n = some p → rank p < rank n

/-- The links of one or more trees: parents come before their children
in the list, a node is a child of its parent and of no other, no child
is listed twice, and a label leads to the first child that has it. -/
structure IsTree : Prop where
  parent_lt : ∀ n p, F.parent n = some p → p < n
  mem_children : ∀ n c, c ∈ F.children n ↔ F.parent c = some n
  sorted : ∀ n, (F.children n).Pairwise (· < ·)
  fields : ∀ n label, F.childByField n label =
    (F.children n).find? (fun c => F.field c == some label)

end Forest

end Outline
