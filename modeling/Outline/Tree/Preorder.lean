/-
Building a forest from a list of nodes in pre-order.

Each entry gives its depth; the parent of a node is the closest earlier
entry one level up. Points and texts follow from the byte offsets and
the source.
-/
import Outline.Tree.Forest

namespace Outline

/-- One node in a pre-order list. -/
structure PreorderEntry where
  depth : Nat
  kind : String
  field : Option String
  startByte : Nat
  endByte : Nat
  named : Bool
  missing : Bool
deriving DecidableEq, Repr, Inhabited

namespace PreorderEntry

/-- The path from the root down to the latest entry, deepest first,
each with its depth. -/
abbrev Spine := List (Nat × NodeId)

/-- The parent of each entry, given the spine above the first of them
and its index. -/
def parents (spine : Spine) (next : NodeId) :
    List PreorderEntry → List (Option NodeId)
  | [] => []
  | e :: rest =>
    let above := spine.dropWhile (fun (d, _) => e.depth ≤ d)
    let parent := match above with
      | (d, n) :: _ => if d + 1 = e.depth then some n else none
      | [] => none
    parent :: parents ((e.depth, next) :: above) (next + 1) rest

end PreorderEntry

/-- The bytes of a source between two offsets. An offset past the end
stops there, a negative one counts from the end, and a span that ends
before it starts is empty. -/
def slice (source : List UInt8) (first last : Int) : List UInt8 :=
  let clamp (o : Int) : Nat :=
    if o < 0 then (o + source.length).toNat else min o.toNat source.length
  (source.take (clamp last)).drop (clamp first)

/-- The forest of a pre-order list over a source. -/
def Forest.ofPreorder (source : List UInt8) (entries : List PreorderEntry) :
    Forest :=
  let parents := (PreorderEntry.parents [] 0 entries).toArray
  let childLists : Array (List NodeId) :=
    (List.range parents.size).reverse.foldl
      (fun lists n => match (parents[n]?).join with
        | some p => lists.modify p (n :: ·)
        | none => lists)
      (Array.replicate parents.size [])
  let table := entries.toArray
  let nodes := entries.zipIdx.map fun (e, n) =>
    let children := (childLists[n]?).getD []
    { kind := e.kind
      named := e.named
      missing := e.missing
      field := e.field
      startByte := e.startByte
      endByte := e.endByte
      startPoint := Point.ofOffset source e.startByte
      endPoint := Point.ofOffset source e.endByte
      parent := (parents[n]?).join
      children := children
      fields := children.filterMap fun c =>
        ((table[c]?).bind (·.field)).map (·, c)
      text := some (slice source e.startByte e.endByte) }
  { nodes := nodes.toArray }

end Outline
