/-
A pre-order list gives a tree.

Trees arrive as pre-order lists with depths, and their links are found in
two passes: parents by a walk down the list that keeps the path to the
latest entry, and children by going through the parents backwards. The
links agree whatever the list: a parent is earlier in the list because
the path holds earlier entries only, and the children of a node are
those that have it as their parent, in order.
-/
import Mathlib.Data.List.Basic
import Outline.Tree.Preorder

namespace Outline

-- =============================================================== parents

namespace PreorderEntry

theorem length_parents (entries : List PreorderEntry) :
    ∀ (spine : Spine) (next : NodeId),
      (parents spine next entries).length = entries.length := by
  induction entries with
  | nil => exact fun _ _ => rfl
  | cons e entries ih =>
      intro spine next
      rw [parents, List.length_cons, ih, List.length_cons]

/-- A parent comes before its children, if the path so far does. -/
theorem parents_lt {entries : List PreorderEntry} :
    ∀ {spine : Spine} {next i p : Nat}, (∀ x ∈ spine, x.2 < next) →
      (parents spine next entries)[i]? = some (some p) → p < next + i := by
  induction entries with
  | nil =>
      intro spine next i p _ h
      simp [parents] at h
  | cons e entries ih =>
      intro spine next i p hspine h
      have habove : ∀ (deep : Nat × NodeId → Bool),
          ∀ x ∈ spine.dropWhile deep, x.2 < next := fun deep x hx =>
        hspine x ((List.dropWhile_sublist deep).subset hx)
      rw [parents] at h
      cases i with
      | zero =>
          rw [List.getElem?_cons_zero, Option.some_inj] at h
          split at h
          next d n rest hd =>
            split at h
            next =>
              cases h
              exact habove _ (d, p) (hd ▸ List.mem_cons_self ..)
            next => cases h
          next => cases h
      | succ i =>
          rw [List.getElem?_cons_succ] at h
          have hlt := ih (fun x hx => ?_) h
          · omega
          · rcases List.mem_cons.mp hx with rfl | hx
            · exact Nat.lt_succ_self next
            · exact Nat.lt_succ_of_lt (habove _ x hx)

/-- The parent of an entry of a list. -/
def parent? (entries : List PreorderEntry) (n : NodeId) : Option NodeId :=
  ((parents [] 0 entries)[n]?).join

/-- The children of an entry of a list, in order. -/
def children (entries : List PreorderEntry) (n : NodeId) : List NodeId :=
  (List.range entries.length).filter fun c => parent? entries c == some n

theorem parent?_lt {entries : List PreorderEntry} {n p : Nat}
    (h : parent? entries n = some p) : p < n := by
  have hlt := parents_lt (fun x hx => by cases hx)
    (Option.join_eq_some_iff.mp h)
  rwa [Nat.zero_add] at hlt

theorem lt_length_of_parent? {entries : List PreorderEntry} {n p : Nat}
    (h : parent? entries n = some p) : n < entries.length := by
  rw [← length_parents entries [] 0]
  exact (List.getElem?_eq_some_iff.mp (Option.join_eq_some_iff.mp h)).1

theorem mem_children {entries : List PreorderEntry} {n c : NodeId} :
    c ∈ children entries n ↔ parent? entries c = some n := by
  rw [children, List.mem_filter, List.mem_range, beq_iff_eq]
  exact ⟨fun h => h.2, fun h => ⟨lt_length_of_parent? h, h⟩⟩

end PreorderEntry

-- ============================================================== children

/-- Going through nodes and putting each in front of the list of its
parent: a list gets those whose parent it belongs to, the last one
first. -/
theorem foldl_modify_children (parent : NodeId → Option NodeId)
    (ns : List NodeId) : ∀ (lists : Array (List NodeId)) (m : Nat),
      (ns.foldl (fun lists n => match parent n with
        | some p => lists.modify p (n :: ·)
        | none => lists) lists)[m]?
      = (lists[m]?).map fun l =>
          (ns.filter fun n => parent n == some m).reverse ++ l := by
  induction ns with
  | nil =>
      intro lists m
      simp
  | cons n ns ih =>
      intro lists m
      rw [List.foldl_cons, ih, List.filter_cons]
      cases hparent : parent n with
      | none => rfl
      | some p =>
          rw [Array.getElem?_modify]
          by_cases hp : p = m
          · subst hp
            cases lists[p]? <;> simp
          · simp [hp]

-- ================================================================ nodes

namespace Forest

open PreorderEntry (parent?)

variable {source : List UInt8} {entries : List PreorderEntry}
  {e : PreorderEntry} {n : Nat}

/-- The links of an entry. -/
theorem node_ofPreorder (h : entries[n]? = some e) :
    ((ofPreorder source entries).node n).parent = parent? entries n
    ∧ ((ofPreorder source entries).node n).children
        = PreorderEntry.children entries n
    ∧ ((ofPreorder source entries).node n).field = e.field
    ∧ ((ofPreorder source entries).node n).fields
        = (PreorderEntry.children entries n).filterMap fun c =>
          ((entries[c]?).bind (·.field)).map (·, c) := by
  have hn := (List.getElem?_eq_some_iff.mp h).1
  have hchildren : (((List.range (PreorderEntry.parents [] 0
      entries).toArray.size).reverse.foldl
      (fun lists n => match ((PreorderEntry.parents [] 0
          entries).toArray[n]?).join with
        | some p => lists.modify p (n :: ·)
        | none => lists)
      (Array.replicate (PreorderEntry.parents [] 0 entries).toArray.size
        []))[n]?).getD [] = PreorderEntry.children entries n := by
    rw [foldl_modify_children]
    simp [PreorderEntry.length_parents, hn, PreorderEntry.children, parent?]
  unfold ofPreorder node
  simp only [Array.getD_eq_getD_getElem?, List.getElem?_toArray,
    List.getElem?_map, List.getElem?_zipIdx, h, Option.map_some,
    Option.getD_some, Nat.zero_add]
  simp only [List.getElem?_toArray] at hchildren
  exact ⟨rfl, hchildren, trivial, congrArg (List.filterMap _) hchildren⟩

/-- Beyond the list nodes are blank. -/
theorem node_ofPreorder_of_length_le (h : entries.length ≤ n) :
    (ofPreorder source entries).node n = {} := by
  have hsize : (ofPreorder source entries).nodes.size = entries.length := by
    simp [ofPreorder]
  rw [node, Array.getD_eq_getD_getElem?,
    Array.getElem?_eq_none (by rw [hsize]; exact h)]
  rfl

theorem parent_ofPreorder (n : Nat) :
    (ofPreorder source entries).parent n = parent? entries n := by
  cases h : entries[n]? with
  | some e => exact (node_ofPreorder h).1
  | none =>
      have hn := List.getElem?_eq_none_iff.mp h
      rw [parent, node_ofPreorder_of_length_le hn, parent?,
        List.getElem?_eq_none (by
          rw [PreorderEntry.length_parents]
          exact hn)]
      rfl

theorem children_ofPreorder (n : Nat) :
    (ofPreorder source entries).children n
      = PreorderEntry.children entries n := by
  cases h : entries[n]? with
  | some e => exact (node_ofPreorder h).2.1
  | none =>
      have hn := List.getElem?_eq_none_iff.mp h
      rw [Forest.children, node_ofPreorder_of_length_le hn]
      refine (List.eq_nil_iff_forall_not_mem.mpr fun c hc => ?_).symm
      have hparent := PreorderEntry.mem_children.mp hc
      have := PreorderEntry.parent?_lt hparent
      have := PreorderEntry.lt_length_of_parent? hparent
      omega

theorem field_ofPreorder (n : Nat) :
    (ofPreorder source entries).field n = (entries[n]?).bind (·.field) := by
  cases h : entries[n]? with
  | some e => exact (node_ofPreorder h).2.2.1
  | none =>
      rw [field, node_ofPreorder_of_length_le (List.getElem?_eq_none_iff.mp h)]
      rfl

/-- A list without missing nodes gives a tree without them. -/
theorem missing_ofPreorder (h : ∀ e ∈ entries, e.missing = false)
    (n : NodeId) : (ofPreorder source entries).missing n = false := by
  cases hn : entries[n]? with
  | none =>
      rw [missing, node_ofPreorder_of_length_le
        (List.getElem?_eq_none_iff.mp hn)]
  | some e =>
      simpa [missing, node, ofPreorder, hn] using
        h e (List.mem_of_getElem? hn)

/-- Looking a label up among labelled nodes finds the first node with
it. -/
theorem lookup_labelled (field : NodeId → Option String) (label : String)
    (ns : List NodeId) :
    (ns.filterMap fun c => (field c).map (·, c)).lookup label
      = ns.find? fun c => field c == some label := by
  induction ns with
  | nil => rfl
  | cons c ns ih =>
      rw [List.filterMap_cons, List.find?_cons]
      cases hfield : field c with
      | none => simpa using ih
      | some l =>
          rw [Option.map_some, List.lookup_cons, ih, Option.some_beq_some,
            BEq.comm]

theorem childByField_ofPreorder (n : Nat) (label : String) :
    (ofPreorder source entries).childByField n label
      = ((ofPreorder source entries).children n).find?
          fun c => (ofPreorder source entries).field c == some label := by
  cases h : entries[n]? with
  | some e =>
      rw [children_ofPreorder, ← lookup_labelled, childByField,
        (node_ofPreorder h).2.2.2]
      simp only [field_ofPreorder]
  | none =>
      rw [childByField, Forest.children,
        node_ofPreorder_of_length_le (List.getElem?_eq_none_iff.mp h)]
      rfl

/-- The links of a pre-order list are those of a tree. -/
theorem isTree_ofPreorder (source : List UInt8)
    (entries : List PreorderEntry) : (ofPreorder source entries).IsTree where
  parent_lt n p h := by
    rw [parent_ofPreorder] at h
    exact PreorderEntry.parent?_lt h
  mem_children n c := by
    rw [children_ofPreorder, parent_ofPreorder]
    exact PreorderEntry.mem_children
  sorted n := by
    rw [children_ofPreorder]
    exact List.Pairwise.filter _ List.pairwise_lt_range
  fields n label := childByField_ofPreorder n label

end Forest

end Outline
