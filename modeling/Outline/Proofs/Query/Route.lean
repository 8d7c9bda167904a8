/-
The way from the root of a pattern down to a capture.

A profile says what is captured, but not where one captured node lies
from another. A route does: it lists the parts of a pattern from the root
to the part under a capture name, each with what is asked of the node it
is sent to. Like profiles, routes are read off the pattern, and every
embedding that captures a node has come to it along one of them
(`exists_route`): the nodes on the way are each the parent of the next.

So a route fixes how far apart two captured nodes are, and a part of it
is a route again (`Leads.exists_split`).
-/
import Outline.Proofs.Query.Profile
import Outline.Proofs.Tree.Ancestry

namespace Outline

/-- One part of a pattern on a way through it. -/
structure Step where
  /-- The labels the node has. -/
  labels : List String
  test : NodeTest
  captures : List String
  /-- The labels of children, with the tests of which they pass one. -/
  sides : List (String × List NodeTest)
deriving DecidableEq, Repr, Inhabited

/-- Parts of a pattern, each below the one before. -/
abbrev Route := List Step

/-- What a step says of a node, given the captures of an embedding. -/
structure Step.Holds (F : Forest) (given : List Capture) (step : Step)
    (n : NodeId) : Prop where
  labels : ∀ label ∈ step.labels, F.field n = some label
  test : step.test.Holds F n
  captures : ∀ name ∈ step.captures, ⟨name, some n⟩ ∈ given
  sides : ∀ side ∈ step.sides, ∃ c, F.parent c = some n
    ∧ F.field c = some side.1 ∧ ∃ test ∈ side.2, test.Holds F c

/-- The route leads from one node down to another. -/
inductive Route.Leads (F : Forest) (given : List Capture) :
    Route → NodeId → NodeId → Prop
  | last {step : Step} {n : NodeId} (holds : step.Holds F given n) :
      Leads F given [step] n n
  | down {step : Step} {rest : Route} {p c n : NodeId}
      (holds : step.Holds F given p) (parent : F.parent c = some p)
      (leads : Leads F given rest c n) : Leads F given (step :: rest) p n

namespace Pattern

/-- The label of the root. -/
def label : Pattern → Option String
  | .node label _ _ _ => label
  | .anyOf label _ _ => label

mutual

/-- The tests of which the node of the root passes one. -/
def rootTests : Pattern → List NodeTest
  | .node _ test _ _ => [test]
  | .anyOf _ _ alternatives => anyRootTests alternatives

/-- The same for any of several patterns. -/
def anyRootTests : List Pattern → List NodeTest
  | [] => []
  | p :: rest => rootTests p ++ anyRootTests rest

end

/-- The labels of child patterns that have one, with their tests. -/
def sides (children : List (Bool × Pattern)) :
    List (String × List NodeTest) :=
  children.filterMap fun child => child.2.label.map (·, child.2.rootTests)

mutual

/-- The routes to the parts under the capture name `target`. `labels` and
`outer` are labels and capture names given to the root from outside. -/
def routes (target : String) (labels outer : List String) :
    Pattern → List Route
  | .node label test captures children =>
    let step : Step :=
      ⟨label.toList ++ labels, test, captures ++ outer, sides children⟩
    (if (captures ++ outer).contains target then [[step]] else []) ++
      (childRoutes target children).map (step :: ·)
  | .anyOf label captures alternatives =>
    anyRoutes target (label.toList ++ labels) (captures ++ outer) alternatives

/-- The routes of child patterns. -/
def childRoutes (target : String) : List (Bool × Pattern) → List Route
  | [] => []
  | (_, p) :: rest => routes target [] [] p ++ childRoutes target rest

/-- The routes of any of several patterns. -/
def anyRoutes (target : String) (labels outer : List String) :
    List Pattern → List Route
  | [] => []
  | p :: rest =>
    routes target labels outer p ++ anyRoutes target labels outer rest

end

end Pattern

-- ================================================================== roots

namespace Pattern.Embeds

variable {F : Forest} {g : Grammar} {s : Sending}

theorem field_eq {p : Pattern} {label : String} (h : p.Embeds F g s)
    (hlabel : p.label = some label) : F.field s.root = some label := by
  cases h with
  | node _ labelled =>
      cases hlabel
      exact labelled.1
  | anyOf labelled =>
      cases hlabel
      exact labelled.1

mutual

/-- The node of the root passes one of its tests. -/
theorem exists_rootTest :
    ∀ {p : Pattern} {s : Sending}, p.Embeds F g s →
      ∃ test ∈ p.rootTests, test.Holds F s.root
  | .node _ test _ _, _, .node _ _ holds _ _ =>
      ⟨test, by simp [rootTests], holds⟩
  | .anyOf _ _ _, _, .anyOf _ chosen embeds => by
      rw [rootTests, Sending.root]
      exact exists_anyRootTest chosen embeds

theorem exists_anyRootTest :
    ∀ {ps : List Pattern} {i : Nat} {p : Pattern} {s : Sending},
      ps[i]? = some p → p.Embeds F g s →
      ∃ test ∈ anyRootTests ps, test.Holds F s.root
  | [], _, _, _, h, _ => by simp at h
  | p :: ps, 0, _, _, h, embeds => by
      cases h
      obtain ⟨test, htest, holds⟩ := exists_rootTest embeds
      rw [anyRootTests]
      exact ⟨test, List.mem_append_left _ htest, holds⟩
  | p :: ps, i + 1, q, _, h, embeds => by
      have hq : ps[i]? = some q := h
      obtain ⟨test, htest, holds⟩ := exists_anyRootTest hq embeds
      rw [anyRootTests]
      exact ⟨test, List.mem_append_right _ htest, holds⟩

end

end Pattern.Embeds

namespace Pattern

variable {F : Forest} {g : Grammar}

/-- The labelled children of an embedding are where its sides say. -/
theorem exists_side {children : List (Bool × Pattern)} {below : List Sending}
    (h : List.Forall₂ (fun child s => child.2.Embeds F g s) children below) :
    ∀ side ∈ sides children, ∃ s ∈ below, F.field s.root = some side.1
      ∧ ∃ test ∈ side.2, test.Holds F s.root := by
  induction h with
  | nil => exact nofun
  | @cons child s children below embeds _ ih =>
      intro side hside
      rw [sides, List.filterMap_cons] at hside
      cases hlabel : child.2.label with
      | none =>
          rw [hlabel, Option.map_none] at hside
          obtain ⟨t, ht, hside⟩ := ih side hside
          exact ⟨t, List.mem_cons_of_mem _ ht, hside⟩
      | some label =>
          rw [hlabel, Option.map_some] at hside
          rcases List.mem_cons.mp hside with rfl | hside
          · exact ⟨s, List.mem_cons_self .., embeds.field_eq hlabel,
              embeds.exists_rootTest⟩
          · obtain ⟨t, ht, hside⟩ := ih side hside
            exact ⟨t, List.mem_cons_of_mem _ ht, hside⟩

/-- Labels from outside and the one of the pattern. -/
theorem field_of_mem_labels {n : NodeId} {label : Option String}
    {labels : List String} (hlabel : F.Labelled g n label)
    (hlabels : ∀ l ∈ labels, F.field n = some l) :
    ∀ l ∈ label.toList ++ labels, F.field n = some l := by
  intro l hl
  rcases List.mem_append.mp hl with hl | hl
  · cases label with
    | none => cases hl
    | some label =>
        rw [List.mem_singleton.mp hl]
        exact hlabel.1
  · exact hlabels l hl

/-- Child patterns are sent to children. -/
theorem parent_of_fits (hF : F.IsTree) {n : NodeId} {anchors : List Bool}
    {below : List Sending}
    (h : F.Fits (F.children n) anchors (below.map Sending.root)) :
    ∀ s ∈ below, F.parent s.root = some n := fun s hs =>
  (hF.mem_children n s.root).mp (h.mem s.root (List.mem_map_of_mem hs))

end Pattern

-- ================================================================ leading

namespace Route

variable {F : Forest} {given given' : List Capture} {route before after : Route}
  {step : Step} {top n : NodeId}

theorem Leads.mono (h : route.Leads F given top n) (hgiven : given ⊆ given') :
    route.Leads F given' top n := by
  have hholds : ∀ {step : Step} {n : NodeId}, step.Holds F given n →
      step.Holds F given' n := fun h =>
    ⟨h.labels, h.test, fun name hname => hgiven (h.captures name hname),
      h.sides⟩
  induction h with
  | last holds => exact .last (hholds holds)
  | down holds parent _ ih => exact .down (hholds holds) parent ih

/-- The first step holds at the top. -/
theorem Leads.holds_head (h : Leads F given (step :: route) top n) :
    step.Holds F given top := by
  cases h with
  | last holds => exact holds
  | down holds => exact holds

/-- A route of several steps goes on at a child. -/
theorem Leads.exists_child (h : Leads F given (step :: route) top n)
    (hroute : route ≠ []) :
    ∃ c, F.parent c = some top ∧ route.Leads F given c n := by
  cases h with
  | last => exact absurd rfl hroute
  | @down _ _ _ c _ _ parent leads => exact ⟨c, parent, leads⟩

/-- A route of one step stays where it is. -/
theorem Leads.eq_of_singleton (h : Leads F given [step] top n) : n = top := by
  cases h with
  | last => rfl
  | down _ _ leads => cases leads

/-- A route of several steps leads to a proper descendant, and says how
far down it is. -/
theorem Leads.exists_ancestor (h : Leads F given (step :: route) top n)
    (hroute : route ≠ []) :
    ∃ between, F.Ancestor n between top
      ∧ between.length + 1 = route.length := by
  induction route generalizing step top with
  | nil => exact absurd rfl hroute
  | cons next route ih =>
      obtain ⟨c, hparent, hleads⟩ := h.exists_child hroute
      cases route with
      | nil =>
          rw [hleads.eq_of_singleton]
          exact ⟨[], hparent, rfl⟩
      | cons later route =>
          obtain ⟨between, hbetween, hlength⟩ :=
            ih hleads (List.cons_ne_nil _ _)
          refine ⟨between ++ [c], hbetween.snoc hparent, ?_⟩
          rw [List.length_append, List.length_singleton, hlength]
          rfl

/-- The rest of a route leads on from some node of it. -/
theorem Leads.exists_split
    (h : Leads F given (before ++ step :: after) top n) :
    ∃ d, Leads F given (step :: after) d n := by
  induction before generalizing top with
  | nil => exact ⟨top, h⟩
  | cons first before ih =>
      obtain ⟨c, -, hleads⟩ := h.exists_child (by simp)
      exact ih hleads

end Route

namespace Pattern

variable {F : Forest} {g : Grammar} {target : String}

theorem captures_cons (names : List String) (n : NodeId) (a : Assignment) :
    Assignment.captures (⟨names, n⟩ :: a)
      = names.map (⟨·, some n⟩) ++ Assignment.captures a :=
  List.flatMap_cons

mutual

/-- An embedding has come to what it captures along a route of the
pattern. -/
theorem exists_route (hF : F.IsTree) {n : NodeId} :
    ∀ {p : Pattern} {s : Sending}, p.Embeds F g s →
      ∀ labels outer : List String,
      (∀ label ∈ labels, F.field s.root = some label) →
      ⟨target, some n⟩ ∈ (placements outer p s).captures →
      ∃ route ∈ routes target labels outer p,
        route.Leads F (placements outer p s).captures s.root n
  | .node label test captures children, .node top below,
      .node _ labelled holds fits embeds, labels, outer, hlabels, hn => by
      rw [placements, captures_cons] at hn ⊢
      have hparent := parent_of_fits hF fits
      have hstep : Step.Holds F ((captures ++ outer).map (⟨·, some top⟩)
          ++ (childPlacements children below).captures)
          ⟨label.toList ++ labels, test, captures ++ outer, sides children⟩
          top := by
        refine ⟨field_of_mem_labels labelled hlabels, holds, ?_, ?_⟩
        · intro name hname
          exact List.mem_append_left _ (List.mem_map_of_mem hname)
        · intro side hside
          obtain ⟨s, hs, hfield, htest⟩ := exists_side embeds side hside
          exact ⟨s.root, hparent s hs, hfield, htest⟩
      rw [routes]
      rcases List.mem_append.mp hn with hhere | hbelow
      · obtain ⟨name, hname, heq⟩ := List.mem_map.mp hhere
        cases heq
        refine ⟨_, List.mem_append_left _ ?_, .last hstep⟩
        rw [if_pos (List.contains_iff_mem.mpr hname)]
        exact List.mem_singleton_self _
      · obtain ⟨route, hroute, s, hs, hleads⟩ :=
          exists_childRoute hF embeds hbelow
        refine ⟨_, List.mem_append_right _ (List.mem_map_of_mem hroute),
          .down hstep (hparent s hs) (hleads.mono ?_)⟩
        exact List.subset_append_right _ _
  | .anyOf label captures alternatives, _,
      .anyOf labelled chosen embeds, labels, outer, hlabels, hn => by
      rw [placements] at hn ⊢
      rw [routes, Sending.root]
      exact exists_anyRoute hF chosen embeds _ _
        (field_of_mem_labels labelled hlabels) hn

theorem exists_childRoute (hF : F.IsTree) {n : NodeId} :
    ∀ {children : List (Bool × Pattern)} {below : List Sending},
      List.Forall₂ (fun child s => child.2.Embeds F g s) children below →
      ⟨target, some n⟩ ∈ (childPlacements children below).captures →
      ∃ route ∈ childRoutes target children, ∃ s ∈ below,
        route.Leads F (childPlacements children below).captures s.root n
  | [], _, .nil, hn => by
      rw [childPlacements] at hn
      cases hn
  | (_, p) :: rest, _, .cons embeds hrest, hn => by
      rw [childPlacements, captures_append] at hn ⊢
      rw [childRoutes]
      rcases List.mem_append.mp hn with hfirst | hothers
      · obtain ⟨route, hroute, hleads⟩ :=
          exists_route hF embeds [] [] nofun hfirst
        exact ⟨route, List.mem_append_left _ hroute, _,
          List.mem_cons_self .., hleads.mono (List.subset_append_left _ _)⟩
      · obtain ⟨route, hroute, s, hs, hleads⟩ :=
          exists_childRoute hF hrest hothers
        exact ⟨route, List.mem_append_right _ hroute, s,
          List.mem_cons_of_mem _ hs,
          hleads.mono (List.subset_append_right _ _)⟩

theorem exists_anyRoute (hF : F.IsTree) {n : NodeId} {s : Sending} :
    ∀ {ps : List Pattern} {i : Nat} {p : Pattern}, ps[i]? = some p →
      p.Embeds F g s → ∀ labels outer : List String,
      (∀ label ∈ labels, F.field s.root = some label) →
      ⟨target, some n⟩ ∈ (anyPlacements outer ps i s).captures →
      ∃ route ∈ anyRoutes target labels outer ps,
        route.Leads F (anyPlacements outer ps i s).captures s.root n
  | [], _, _, h, _, _, _, _, _ => by simp at h
  | p :: ps, 0, _, h, embeds, labels, outer, hlabels, hn => by
      cases h
      rw [anyPlacements] at hn ⊢
      obtain ⟨route, hroute, hleads⟩ :=
        exists_route hF embeds labels outer hlabels hn
      rw [anyRoutes]
      exact ⟨route, List.mem_append_left _ hroute, hleads⟩
  | p :: ps, i + 1, q, h, embeds, labels, outer, hlabels, hn => by
      have hq : ps[i]? = some q := h
      rw [anyPlacements] at hn ⊢
      obtain ⟨route, hroute, hleads⟩ :=
        exists_anyRoute hF hq embeds labels outer hlabels hn
      rw [anyRoutes]
      exact ⟨route, List.mem_append_right _ hroute, hleads⟩

end

/-- The same for a whole pattern, which has no labels and no captures from
outside. -/
theorem exists_route_of_capture (hF : F.IsTree) {p : Pattern} {s : Sending}
    {n : NodeId} (h : p.Embeds F g s)
    (hn : ⟨target, some n⟩ ∈ (placements [] p s).captures) :
    ∃ route ∈ routes target [] [] p,
      route.Leads F (placements [] p s).captures s.root n :=
  exists_route hF h [] [] nofun hn

end Pattern

end Outline
