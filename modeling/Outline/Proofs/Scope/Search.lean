/-
A search, round by round.

A search looks at one node a round and has four ways to end: there is no
node, the node is missing, it is a boundary, or it is a stop. They are
tried in this order, and a round that ends in none of them goes on to the
parent. `Walks` says this with no bound on the rounds, and a search of a
forest without cycles comes to what its rounds come to
(`Acyclic.walks_iff`): it ends, and the bound on its climb never ends it.

What it finds is then said without rounds. The first boundary
(`FirstBoundary`) is found, if nothing before it ends the search, and
nothing else is (`Acyclic.search_eq_some_iff`).

The searches for a type and for a function go over the same chain of
nodes. If the second one gives up at types, the two part at the first node
of either kind, so it finds that node or none, and the first one finds
that node or goes beyond it.
-/
import Outline.Proofs.Scope.Nearest

namespace Outline.Forest

variable {F : Forest} {isBoundary isStop : NodeId → Bool}
  {start r r' : Option NodeId} {kinds kinds' : List String}
  {n p x f : NodeId}

-- ================================================================ rounds

/-- What a search comes to from `start` on, round by round. -/
inductive Walks (F : Forest) (isBoundary isStop : NodeId → Bool) :
    Option NodeId → Option NodeId → Prop
  | root : F.Walks isBoundary isStop none none
  | missing {n : NodeId} (hmissing : F.missing n = true) :
      F.Walks isBoundary isStop (some n) none
  | boundary {n : NodeId} (hpresent : F.missing n = false)
      (hboundary : isBoundary n = true) :
      F.Walks isBoundary isStop (some n) (some n)
  | stop {n : NodeId} (hpresent : F.missing n = false)
      (hother : isBoundary n = false) (hstop : isStop n = true) :
      F.Walks isBoundary isStop (some n) none
  | parent {n : NodeId} {r : Option NodeId} (hpresent : F.missing n = false)
      (hother : isBoundary n = false) (hpasses : isStop n = false)
      (hrest : F.Walks isBoundary isStop (F.parent n) r) :
      F.Walks isBoundary isStop (some n) r

/-- Rounds come to one result only. -/
theorem Walks.unique (h : F.Walks isBoundary isStop start r)
    (h' : F.Walks isBoundary isStop start r') : r = r' := by
  induction h with
  | root =>
      cases h'
      rfl
  | missing hmissing => cases h' <;> simp_all
  | boundary hpresent hboundary => cases h' <;> simp_all
  | stop hpresent hother hstop => cases h' <;> simp_all
  | parent hpresent hother hpasses _ ih =>
      cases h' with
      | missing hmissing => simp [hpresent] at hmissing
      | boundary _ hboundary => simp [hother] at hboundary
      | stop _ _ hstop => simp [hpasses] at hstop
      | parent _ _ _ hrest => exact ih hrest

/-- Rounds come to the first boundary of a bounded climb, if the bound
leaves room for the whole chain of parents. -/
theorem walks_climb {fuel : Nat}
    (hroom : ∀ before x, F.Climbs start before x → before.length < fuel) :
    F.Walks isBoundary isStop start
      (F.firstBoundary isBoundary isStop (F.climb start fuel)) := by
  induction fuel generalizing start with
  | zero =>
      cases start with
      | none => exact .root
      | some n => exact absurd (hroom [] n rfl) (Nat.not_lt_zero _)
  | succ fuel ih =>
      cases start with
      | none => exact .root
      | some n =>
          rw [climb, firstBoundary]
          cases hmissing : F.missing n with
          | true => exact .missing hmissing
          | false =>
              cases hboundary : isBoundary n with
              | true => exact .boundary hmissing hboundary
              | false =>
                  cases hstop : isStop n with
                  | true => exact .stop hmissing hboundary hstop
                  | false =>
                      -- one node less of the chain, and one round less
                      refine .parent hmissing hboundary hstop (ih ?_)
                      intro before x hclimbs
                      have hlong := hroom (n :: before) x ⟨rfl, hclimbs⟩
                      exact Nat.lt_of_succ_lt_succ hlong

/-- Without a cycle the rounds come to an end, and to what the bounded
climb finds. -/
theorem Acyclic.walks_iff (hF : F.Acyclic) :
    F.Walks isBoundary isStop start r ↔
      F.firstBoundary isBoundary isStop (F.climb start (F.size + 1)) = r := by
  have hwalks : F.Walks isBoundary isStop start
      (F.firstBoundary isBoundary isStop (F.climb start (F.size + 1))) :=
    walks_climb fun before x hclimbs =>
      Nat.lt_succ_of_le (hF.length_le_size hclimbs)
  constructor
  · exact fun h => hwalks.unique h
  · rintro rfl
    exact hwalks

-- ======================================================== first boundary

/-- The node a search begins at. -/
def searchStart (F : Forest) (start : Option NodeId) (startAtSelf : Bool) :
    Option NodeId :=
  if startAtSelf then start else start.bind F.parent

/-- `x` is the first boundary on the way up from `start`: neither `x` nor a
node before it is missing, and none before it is a boundary or a stop. -/
def FirstBoundary (F : Forest) (isBoundary isStop : NodeId → Bool)
    (start : Option NodeId) (x : NodeId) : Prop :=
  ∃ before, F.Climbs start before x ∧ isBoundary x = true
    ∧ F.missing x = false
    ∧ ∀ b ∈ before, isBoundary b = false ∧ isStop b = false
      ∧ F.missing b = false

theorem searchChain_eq (start : Option NodeId) (startAtSelf : Bool) :
    F.searchChain start startAtSelf
      = F.climb (F.searchStart start startAtSelf) (F.size + 1) := by
  unfold searchChain searchStart
  split <;> rfl

/-- A search finds the first boundary and no other node. -/
theorem Acyclic.search_eq_some_iff (hF : F.Acyclic) {startAtSelf : Bool}
    {stops : Option (NodeId → Bool)} :
    F.search start isBoundary startAtSelf stops = some x ↔
      F.FirstBoundary isBoundary (stops.getD fun _ => false)
        (F.searchStart start startAtSelf) x := by
  rw [search, searchChain_eq, firstBoundary_eq_some_iff]
  simp only [hF.climb_split_iff]
  rfl

/-- What a search finds that was started at the parent of a node is an
ancestor of the node. -/
theorem exists_ancestor_of_search {startAtSelf : Bool}
    {stops : Option (NodeId → Bool)} (hparent : F.parent n = some p)
    (h : F.search (some p) isBoundary startAtSelf stops = some x) :
    ∃ between, F.Ancestor n between x := by
  rw [search, searchChain_eq] at h
  obtain ⟨before, hsplit, -⟩ := firstBoundary_eq_some_iff.mp h
  have hclimbs := (climb_split_iff.mp hsplit).1
  unfold searchStart at hclimbs
  split at hclimbs
  next =>
    rw [← hparent] at hclimbs
    exact ⟨before, hclimbs⟩
  next => exact ⟨p :: before, hparent, hclimbs⟩

/-- A boundary that is not missing is the first one from itself on. -/
theorem firstBoundary_self (hboundary : isBoundary x = true)
    (hpresent : F.missing x = false) :
    F.FirstBoundary isBoundary isStop (some x) x :=
  ⟨[], rfl, hboundary, hpresent, nofun⟩

/-- Stops that are boundaries as well are no stops. -/
theorem firstBoundary_congr_stops :
    F.FirstBoundary isBoundary (fun n => isStop n && !isBoundary n) start x ↔
      F.FirstBoundary isBoundary isStop start x := by
  unfold FirstBoundary
  refine exists_congr fun before => and_congr_right fun _ =>
    and_congr_right fun _ => and_congr_right fun _ => ?_
  refine forall₂_congr fun b _ => and_congr_right fun hother => ?_
  simp only [hother, Bool.not_false, Bool.and_true]

/-- In a forest without cycles every search comes to an end, to the one its
rounds come to. It finds a node if and only if that is the first boundary
on the way up, and nothing if and only if there is none. A node that is
both a boundary and a stop counts as a boundary, and a search that begins
at the node it was started from finds what it has found again. -/
theorem Acyclic.search_finds_first_boundary (F : Forest) (hF : F.Acyclic)
    (start : Option NodeId) (isBoundary : NodeId → Bool)
    (startAtSelf : Bool) (stops : Option (NodeId → Bool)) :
    (∀ r, F.Walks isBoundary (stops.getD fun _ => false)
        (F.searchStart start startAtSelf) r ↔
      F.search start isBoundary startAtSelf stops = r)
    ∧ (∀ x, F.search start isBoundary startAtSelf stops = some x ↔
      F.FirstBoundary isBoundary (stops.getD fun _ => false)
        (F.searchStart start startAtSelf) x)
    ∧ (F.search start isBoundary startAtSelf stops = none ↔
      ∀ x, ¬F.FirstBoundary isBoundary (stops.getD fun _ => false)
        (F.searchStart start startAtSelf) x)
    ∧ F.search start isBoundary startAtSelf
        (stops.map fun isStop n => isStop n && !isBoundary n)
      = F.search start isBoundary startAtSelf stops
    ∧ F.search (F.search start isBoundary startAtSelf stops) isBoundary true
        stops
      = F.search start isBoundary startAtSelf stops := by
  refine ⟨fun r => ?_, fun x => hF.search_eq_some_iff, ?_, ?_, ?_⟩
  · rw [hF.walks_iff, search, searchChain_eq]
  · rw [Option.eq_none_iff_forall_ne_some]
    exact forall_congr' fun x => not_congr hF.search_eq_some_iff
  · refine Option.ext fun x => ?_
    rw [hF.search_eq_some_iff, hF.search_eq_some_iff]
    cases stops with
    | none => rfl
    | some isStop => exact firstBoundary_congr_stops
  · cases hfound : F.search start isBoundary startAtSelf stops with
    | none => rfl
    | some x =>
        obtain ⟨before, -, hboundary, hpresent, -⟩ :=
          hF.search_eq_some_iff.mp hfound
        exact hF.search_eq_some_iff.mpr
          (firstBoundary_self hboundary hpresent)

/-- From the name in `class A: def f` up, the class is found although it is
a stop, and the function between the two ends the search if it is one. -/
theorem Acyclic.search_finds_first_boundary_method :
    methodForest.Acyclic
    ∧ methodForest.search (some 4) (methodForest.kindIn ["class_definition"])
        false (some (methodForest.kindIn ["class_definition"])) = some 0
    ∧ methodForest.search (some 4) (methodForest.kindIn ["class_definition"])
        false (some (methodForest.kindIn ["function_definition"])) = none := by
  have hF : methodForest.Acyclic := (isTree_ofPreorder ..).acyclic
  obtain ⟨-, hclass, -⟩ := search_finds_first_boundary methodForest hF
    (some 4) (methodForest.kindIn ["class_definition"]) false
    (some (methodForest.kindIn ["class_definition"]))
  obtain ⟨hrounds, -⟩ := search_finds_first_boundary methodForest hF
    (some 4) (methodForest.kindIn ["class_definition"]) false
    (some (methodForest.kindIn ["function_definition"]))
  refine ⟨hF, (hclass 0).mpr ?_, (hrounds none).mp ?_⟩
  · exact ⟨[3, 2], ⟨rfl, rfl, rfl⟩, by decide, rfl, by decide⟩
  · exact .stop (n := 3) rfl (by decide) (by decide)

-- ================================================== types and functions

theorem kindIn_append :
    F.kindIn (kinds ++ kinds') n = (F.kindIn kinds n || F.kindIn kinds' n) := by
  unfold kindIn
  exact List.contains_append

/-- With types as stops a search for a function finds what a search for
either finds, if that is a function. -/
theorem firstBoundary_append_iff {chain : List NodeId} :
    F.firstBoundary (F.kindIn kinds') (F.kindIn kinds) chain = some f ↔
      F.firstBoundary (F.kindIn (kinds ++ kinds')) (fun _ => false) chain
          = some f
        ∧ F.kind f ∈ kinds' := by
  have hmem : F.kind f ∈ kinds' ↔ F.kindIn kinds' f = true := by
    simp [kindIn]
  rw [hmem, firstBoundary_eq_some_iff, firstBoundary_eq_some_iff]
  simp only [kindIn_append, Bool.or_eq_true, Bool.or_eq_false_iff, true_and]
  constructor
  · rintro ⟨before, hchain, hf, hpresent, hbefore⟩
    refine ⟨⟨before, hchain, .inr hf, hpresent, fun b hb => ?_⟩, hf⟩
    obtain ⟨hother, htype, hmissing⟩ := hbefore b hb
    exact ⟨⟨htype, hother⟩, hmissing⟩
  · rintro ⟨⟨before, hchain, -, hpresent, hbefore⟩, hf⟩
    refine ⟨before, hchain, hf, hpresent, fun b hb => ?_⟩
    obtain ⟨⟨htype, hother⟩, hmissing⟩ := hbefore b hb
    exact ⟨hother, htype, hmissing⟩

/-- Where a search for a function gives up at types, it finds the first
node that is a type or a function, if that is a function, and nothing
otherwise; so the type around a node is the function around it or an
ancestor of that function. Where it does not give up at types, it does not
depend on what a type is. -/
theorem enclosingFunction_agrees_with_type (F : Forest) (rules : ScopeRules)
    (start : Option NodeId) :
    (rules.stopFunctionAtType = true →
      (∀ f, F.enclosingFunction rules start = some f ↔
        F.search start (F.kindIn (rules.typeKinds ++ rules.functionKinds))
            rules.startAtSelf none = some f
          ∧ F.kind f ∈ rules.functionKinds)
      ∧ ∀ t f, F.enclosingType rules start = some t →
        F.enclosingFunction rules start = some f →
        t = f ∨ ∃ between, F.Ancestor f between t)
    ∧ (rules.stopFunctionAtType = false → ∀ kinds,
      F.enclosingFunction { rules with typeKinds := kinds } start
        = F.enclosingFunction rules start) := by
  refine ⟨fun hstop => ⟨fun f => ?_, fun t f ht hf => ?_⟩,
    fun hstop kinds => ?_⟩
  · rw [enclosingFunction, hstop]
    split
    next hempty => simp [List.isEmpty_iff.mp hempty]
    next => exact firstBoundary_append_iff
  · have ht := search_of_enclosingType ht
    have hf := search_of_enclosingFunction hf
    rw [hstop, if_pos rfl] at hf
    obtain ⟨before', ht, htype, -⟩ := firstBoundary_eq_some_iff.mp ht
    obtain ⟨before, hf, -, -, hbefore⟩ := firstBoundary_eq_some_iff.mp hf
    -- none of the nodes before the function is a type
    have hnew : t ∉ before := by
      intro hmem
      have hother : F.kindIn rules.typeKinds t = false := (hbefore t hmem).2.1
      rw [htype] at hother
      cases hother
    rw [searchChain_eq] at ht hf
    exact (climb_split_iff.mp hf).1.eq_or_ancestor (climb_split_iff.mp ht).1
      hnew
  · unfold enclosingFunction
    simp only [hstop, Bool.false_eq_true, if_false]

/-- Around the name in `class A: def f` the function is what a search for
either finds, and the class is an ancestor of the function. -/
theorem enclosingFunction_agrees_with_type_method :
    methodForest.enclosingFunction
        { typeKinds := ["class_definition"]
          functionKinds := ["function_definition"]
          stopFunctionAtType := true } (some 4) = some 3
    ∧ methodForest.enclosingType
        { typeKinds := ["class_definition"]
          functionKinds := ["function_definition"]
          stopFunctionAtType := true } (some 4) = some 0
    ∧ ∃ between, methodForest.Ancestor 3 between 0 := by
  obtain ⟨hfunction, htype⟩ := (enclosingFunction_agrees_with_type methodForest
    { typeKinds := ["class_definition"]
      functionKinds := ["function_definition"]
      stopFunctionAtType := true } (some 4)).1 rfl
  have hf := (hfunction 3).mpr ⟨by decide, by decide⟩
  have ht : methodForest.enclosingType
      { typeKinds := ["class_definition"]
        functionKinds := ["function_definition"]
        stopFunctionAtType := true } (some 4) = some 0 := by decide
  obtain hsame | hancestor := htype 0 3 ht hf
  · cases hsame
  · exact ⟨hf, ht, hancestor⟩

-- a node that is both is the type and the function around its children
example :
    let rules : ScopeRules :=
      { typeKinds := ["class_definition"]
        functionKinds := ["class_definition", "function_definition"]
        stopFunctionAtType := true }
    methodForest.enclosingFunction rules (some 2) = some 0
      ∧ methodForest.enclosingType rules (some 2) = some 0 := by
  decide

end Outline.Forest
