/-
Why a match has no definition.

A match can be of no use for several reasons at once, and it is reported
for the first of them. The reasons are said here by the captures, the
nodes and the source alone: which capture is about the definition and
which about its name is a matter of what comes first in the list
(`First`), what a name reads is a matter of the bytes its node spans
(`Forest.Spans`), and each reason has its place in the order
(`Obstacle`).

A match is usable or meets a first obstacle (`Match.usable_or_stopped`).
The checks are opened twice, once for each half: a usable match becomes a
definition (`Match.resolve_of_usable`), and a first obstacle decides the
fault (`Match.resolve_of_stoppedBy`). Everything else follows from the two.
-/
import Mathlib.Data.Nat.Find
import Mathlib.Tactic.ByContra
import Outline.Definition
import Outline.Proofs.Text.Utf8

namespace Outline

-- ================================================================= firsts

section First

variable {α : Type} {p : α → Prop} {f : α → Bool} {xs : List α} {x y : α}

/-- An element of a list with a property that no element before it has. -/
def First (p : α → Prop) (xs : List α) (x : α) : Prop :=
  p x ∧ ∃ before after, xs = before ++ x :: after ∧ ∀ y ∈ before, ¬p y

theorem find?_eq_some_iff_first (hf : ∀ x, f x = true ↔ p x) :
    xs.find? f = some x ↔ First p xs x := by
  rw [List.find?_eq_some_iff_append, hf]
  unfold First
  simp only [Bool.not_eq_true', ← hf, Bool.not_eq_true]

theorem First.mem (h : First p xs x) : x ∈ xs := by
  obtain ⟨-, before, after, rfl, -⟩ := h
  simp

theorem First.unique (h : First p xs x) (h' : First p xs y) : x = y := by
  classical
  have hp : ∀ x, decide (p x) = true ↔ p x := fun x => decide_eq_true_iff
  rw [← find?_eq_some_iff_first hp] at h h'
  rw [h] at h'
  exact Option.some.inj h'

end First

-- =============================================================== captures

namespace Match

variable {m : Match} {tracked : Option (Option NodeId → Bool)}
  {kind kind' : String} {n n' naming naming' : NodeId}

/-- The match defines node `n`, as a `kind`: of the captures under other
names than `name`, on nodes that are tracked if that is asked for, the
first has this name and is on this node. -/
def Defines (m : Match) (tracked : Option (Option NodeId → Bool))
    (kind : String) (n : NodeId) : Prop :=
  First (fun c => c.name ≠ nameCapture
    ∧ ∀ accepts ∈ tracked, accepts c.node = true) m.captures ⟨kind, some n⟩

/-- The first capture called `name` is on node `n`. -/
def NamedBy (m : Match) (n : NodeId) : Prop :=
  First (fun c => c.name = nameCapture) m.captures ⟨nameCapture, some n⟩

theorem Defines.unique (h : m.Defines tracked kind n)
    (h' : m.Defines tracked kind' n') : kind = kind' ∧ n = n' := by
  have heq := First.unique h h'
  simp only [Capture.mk.injEq, Option.some.injEq] at heq
  exact heq

theorem Defines.captures_ne_nil (h : m.Defines tracked kind n) :
    m.captures ≠ [] :=
  List.ne_nil_of_mem (First.mem h)

theorem NamedBy.unique (h : m.NamedBy naming) (h' : m.NamedBy naming') :
    naming = naming' := by
  have heq := First.unique h h'
  simp only [Capture.mk.injEq, Option.some.injEq, true_and] at heq
  exact heq

/-- The chosen definition is the one that the match defines. -/
theorem select_definition_iff :
    (Anchors.select tracked m.captures).definition = some ⟨kind, some n⟩ ↔
      m.Defines tracked kind n := by
  refine find?_eq_some_iff_first fun c => ?_
  cases tracked <;> simp [Capture.isName]

/-- The chosen name is on the node that names the match. -/
theorem select_name_iff :
    (Anchors.select tracked m.captures).name.bind (·.node) = some n ↔
      m.NamedBy n := by
  have hname : ∀ c : Capture, c.isName = true ↔ c.name = nameCapture :=
    fun c => by simp [Capture.isName]
  rw [NamedBy, ← find?_eq_some_iff_first hname, Option.bind_eq_some_iff]
  constructor
  · rintro ⟨⟨name, node⟩, hfound, rfl⟩
    -- a capture that was found is called `name`
    have hcalled : name = nameCapture := (hname _).mp (List.find?_some hfound)
    rw [← hcalled]
    exact hfound
  · intro hfound
    exact ⟨_, hfound, rfl⟩

end Match

-- ================================================================== nodes

/-- A node spans bytes of a source: even cut off at the end of the source,
it ends behind its start. -/
def Forest.Spans (F : Forest) (source : List UInt8) (n : NodeId) : Prop :=
  min (F.node n).startByte source.length < min (F.node n).endByte source.length

/-- The bytes of a node are none if it spans none. -/
theorem Forest.span_eq_nil_iff {F : Forest} {source : List UInt8} {n : NodeId}
    (hstart : 0 ≤ (F.node n).startByte) (hend : 0 ≤ (F.node n).endByte) :
    F.span source n = [] ↔ ¬F.Spans source n := by
  have hstart' : ¬(F.node n).startByte < 0 := by omega
  have hend' : ¬(F.node n).endByte < 0 := by omega
  unfold span slice Spans
  simp only [if_neg hstart', if_neg hend', List.drop_eq_nil_iff,
    List.length_take]
  omega

namespace SourceRange

/-- No part of the range is negative, and in reading order its start is
not behind its end. -/
def InOrder (r : SourceRange) : Prop :=
  (0 ≤ r.start.row ∧ 0 ≤ r.start.column ∧ 0 ≤ r.stop.row ∧ 0 ≤ r.stop.column)
  ∧ (r.start.row < r.stop.row
    ∨ r.start.row = r.stop.row ∧ r.start.column ≤ r.stop.column)

theorem wellFormed_iff {r : SourceRange} :
    r.wellFormed = true ↔ r.InOrder := by
  unfold wellFormed InOrder Point.nonnegative Point.le
  simp only [Bool.and_eq_true, Bool.or_eq_true, decide_eq_true_eq,
    beq_iff_eq, and_assoc]

end SourceRange

-- ================================================================ anchors

/-- With both anchors at hand, three checks are left. -/
theorem Anchors.resolve_of_anchors {F : Forest} {source : List UInt8}
    {pattern : Int} {anchors : Anchors} {includeContent : Bool}
    {scopes : Scopes} {kind : String} {n naming : NodeId}
    (hdefinition : anchors.definition = some ⟨kind, some n⟩)
    (hname : anchors.name.bind (·.node) = some naming) :
    anchors.resolve F source pattern includeContent scopes =
      if F.missing n then .error (.missingNode pattern "definition")
      else if F.span source naming = [] then .error (.noName pattern kind)
      else if (F.range n).wellFormed then
        .ok {
          kind := kind
          name := Utf8.decode (F.span source naming)
          range := F.range n
          content := if includeContent then some (F.span source n) else none
          scopes := scopes }
      else .error (.missingNode pattern "definition") := by
  obtain ⟨⟨name, node⟩, hnaming, rfl⟩ := Option.bind_eq_some_iff.mp hname
  unfold resolve
  simp only [hdefinition, hnaming, Utf8.isEmpty_decode, List.isEmpty_iff]

-- ============================================================== obstacles

/-- The reasons why a match has no definition, each with its place in the
order and with the fault it is reported as. -/
inductive Obstacle (F : Forest) (source : List UInt8)
    (tracked : Option (Option NodeId → Bool)) (m : Match) :
    Nat → MatchFault → Prop where
  /-- The match has no captures. -/
  | empty : m.captures = [] → Obstacle F source tracked m 0
      (.emptyMatch m.pattern)
  /-- The match defines no node. -/
  | undefined : (∀ kind n, ¬m.Defines tracked kind n) →
      Obstacle F source tracked m 1 (.missingNode m.pattern "definition")
  /-- No node names the match. -/
  | unnamed : (∀ n, ¬m.NamedBy n) →
      Obstacle F source tracked m 2 (.missingNode m.pattern "name")
  /-- Error recovery made up the node that the match defines. -/
  | madeUp {kind : String} {n : NodeId} : m.Defines tracked kind n →
      F.missing n = true →
      Obstacle F source tracked m 3 (.missingNode m.pattern "definition")
  /-- The node that names the match spans no bytes. -/
  | blank {kind : String} {n naming : NodeId} : m.Defines tracked kind n →
      m.NamedBy naming → ¬F.Spans source naming →
      Obstacle F source tracked m 4 (.noName m.pattern kind)
  /-- The range of the node that the match defines is out of order. -/
  | illFormed {kind : String} {n : NodeId} : m.Defines tracked kind n →
      ¬(F.range n).InOrder →
      Obstacle F source tracked m 5 (.missingNode m.pattern "definition")

namespace Match

variable {F : Forest} {source : List UInt8} {m : Match}
  {tracked : Option (Option NodeId → Bool)} {includeContent : Bool}
  {kind : String} {n naming : NodeId} {e : MatchFault}

/-- A fault is that of the first obstacle in the way of a match. -/
def StoppedBy (F : Forest) (source : List UInt8)
    (tracked : Option (Option NodeId → Bool)) (m : Match)
    (e : MatchFault) : Prop :=
  ∃ k, Obstacle F source tracked m k e
    ∧ ∀ j < k, ∀ e', ¬Obstacle F source tracked m j e'

/-- Nothing is in the way of a match: it defines a node of an orderly
range that is not made up, and is named by a node that spans bytes. -/
structure Usable (F : Forest) (source : List UInt8)
    (tracked : Option (Option NodeId → Bool)) (m : Match)
    (kind : String) (n naming : NodeId) : Prop where
  defines : m.Defines tracked kind n
  namedBy : m.NamedBy naming
  present : F.missing n = false
  spans : F.Spans source naming
  inOrder : (F.range n).InOrder

/-- A match is usable or stopped. -/
theorem usable_or_stopped (F : Forest) (source : List UInt8)
    (tracked : Option (Option NodeId → Bool)) (m : Match) :
    (∃ kind n naming, Usable F source tracked m kind n naming)
      ∨ ∃ e, StoppedBy F source tracked m e := by
  by_cases hstop : ∃ k e, Obstacle F source tracked m k e
  · right
    -- of the obstacles there are, the first
    classical
    obtain ⟨e, he⟩ := Nat.find_spec hstop
    refine ⟨e, Nat.find hstop, he, fun j hj e' he' => ?_⟩
    exact Nat.find_min hstop hj ⟨e', he'⟩
  · left
    have hnone : ∀ k e, ¬Obstacle F source tracked m k e :=
      fun k e h => hstop ⟨k, e, h⟩
    have hdefined : ∃ kind n, m.Defines tracked kind n := by
      by_contra h
      exact hnone _ _ (.undefined fun kind n hn => h ⟨kind, n, hn⟩)
    have hnamed : ∃ naming, m.NamedBy naming := by
      by_contra h
      exact hnone _ _ (.unnamed fun n hn => h ⟨n, hn⟩)
    obtain ⟨kind, n, hdefines⟩ := hdefined
    obtain ⟨naming, hnaming⟩ := hnamed
    refine ⟨kind, n, naming, hdefines, hnaming, ?_, ?_, ?_⟩
    · rw [← Bool.not_eq_true]
      exact fun h => hnone _ _ (.madeUp hdefines h)
    · by_contra h
      exact hnone _ _ (.blank hdefines hnaming h)
    · by_contra h
      exact hnone _ _ (.illFormed hdefines h)

-- ============================================================= resolution

/-- A match with captures resolves as its anchors do. -/
theorem resolve_of_captures (h : m.captures ≠ []) :
    m.resolve F source includeContent tracked
      = (Anchors.select tracked m.captures).resolve F source m.pattern
        includeContent {} := by
  rw [resolve, if_neg (by rwa [List.isEmpty_iff])]

/-- A match that no node names is missing its name. -/
theorem resolve_of_unnamed (hdefines : m.Defines tracked kind n)
    (hnone : ∀ naming, ¬m.NamedBy naming) :
    m.resolve F source includeContent tracked
      = .error (.missingNode m.pattern "name") := by
  rw [resolve_of_captures hdefines.captures_ne_nil, Anchors.resolve,
    select_definition_iff.mpr hdefines]
  dsimp only
  split
  next => rfl
  next => rfl
  next naming hname =>
    have hnaming : (Anchors.select tracked m.captures).name.bind
        (·.node) = some naming := by
      rw [hname]
      rfl
    exact absurd (select_name_iff.mp hnaming) (hnone naming)

/-- With both nodes at hand, three checks are left. -/
theorem resolve_of_defines (hdefines : m.Defines tracked kind n)
    (hnaming : m.NamedBy naming) :
    m.resolve F source includeContent tracked =
      if F.missing n then .error (.missingNode m.pattern "definition")
      else if F.span source naming = [] then .error (.noName m.pattern kind)
      else if (F.range n).wellFormed then
        .ok {
          kind := kind
          name := Utf8.decode (F.span source naming)
          range := F.range n
          content := if includeContent then some (F.span source n) else none
          scopes := {} }
      else .error (.missingNode m.pattern "definition") := by
  rw [resolve_of_captures hdefines.captures_ne_nil]
  exact Anchors.resolve_of_anchors (select_definition_iff.mpr hdefines)
    (select_name_iff.mpr hnaming)

variable (hbytes : ∀ n, 0 ≤ (F.node n).startByte ∧ 0 ≤ (F.node n).endByte)

include hbytes

/-- A usable match becomes a definition of what it is about. -/
theorem resolve_of_usable (includeContent : Bool)
    (h : Usable F source tracked m kind n naming) :
    m.resolve F source includeContent tracked = .ok {
      kind := kind
      name := Utf8.decode (F.span source naming)
      range := F.range n
      content := if includeContent then some (F.span source n) else none } := by
  have hspan : F.span source naming ≠ [] := by
    rw [ne_eq, Forest.span_eq_nil_iff (hbytes naming).1 (hbytes naming).2]
    exact not_not_intro h.spans
  rw [resolve_of_defines h.defines h.namedBy, h.present,
    if_neg Bool.false_ne_true, if_neg hspan,
    if_pos (SourceRange.wellFormed_iff.mpr h.inOrder)]

/-- A match that is stopped fails with that fault. -/
theorem resolve_of_stoppedBy (includeContent : Bool)
    (h : StoppedBy F source tracked m e) :
    m.resolve F source includeContent tracked = .error e := by
  obtain ⟨k, hobstacle, hfirst⟩ := h
  -- what the obstacles before this one would have been about is there
  have hsome : 0 < k → m.captures ≠ [] :=
    fun hk hnil => hfirst 0 hk _ (.empty hnil)
  have hdefined : 1 < k → ∃ kind n, m.Defines tracked kind n := by
    intro hk
    by_contra h
    exact hfirst 1 hk _ (.undefined fun kind n hn => h ⟨kind, n, hn⟩)
  have hnamed : 2 < k → ∃ naming, m.NamedBy naming := by
    intro hk
    by_contra h
    exact hfirst 2 hk _ (.unnamed fun n hn => h ⟨n, hn⟩)
  cases hobstacle with
  | empty hnil =>
      rw [resolve, if_pos (List.isEmpty_iff.mpr hnil)]
  | undefined hnone =>
      rw [resolve_of_captures (hsome (by omega)), Anchors.resolve]
      split
      next => rfl
      next => rfl
      next kind n hdefinition =>
        exact absurd (select_definition_iff.mp hdefinition) (hnone kind n)
  | unnamed hnone =>
      obtain ⟨kind, n, hdefines⟩ := hdefined (by omega)
      exact resolve_of_unnamed hdefines hnone
  | madeUp hdefines hmissing =>
      obtain ⟨naming, hnaming⟩ := hnamed (by omega)
      rw [resolve_of_defines hdefines hnaming, if_pos hmissing]
  | blank hdefines hnaming hspans =>
      rename_i kind n naming
      have hpresent : ¬F.missing n = true :=
        fun hmissing => hfirst 3 (by omega) _ (.madeUp hdefines hmissing)
      have hspan : F.span source naming = [] :=
        (Forest.span_eq_nil_iff (hbytes naming).1 (hbytes naming).2).mpr hspans
      rw [resolve_of_defines hdefines hnaming, if_neg hpresent, if_pos hspan]
  | illFormed hdefines hrange =>
      rename_i kind n
      obtain ⟨naming, hnaming⟩ := hnamed (by omega)
      have hpresent : ¬F.missing n = true :=
        fun hmissing => hfirst 3 (by omega) _ (.madeUp hdefines hmissing)
      have hspan : ¬F.span source naming = [] := by
        rw [Forest.span_eq_nil_iff (hbytes naming).1 (hbytes naming).2]
        exact fun hspans => hfirst 4 (by omega) _
          (.blank hdefines hnaming hspans)
      rw [resolve_of_defines hdefines hnaming, if_neg hpresent, if_neg hspan,
        if_neg (mt SourceRange.wellFormed_iff.mp hrange)]

end Match

/-- A match over any nodes becomes a definition if and only if it has
captures, the first that may be about a definition is on a node that is
not made up and has an orderly range, and the first called `name` is on a
node that spans bytes of the source. The definition is that of these two
nodes, so its name is not empty and its range is in order. In all other
cases the match fails with the fault of the first obstacle. -/
theorem Match.resolve_fails_for_first_obstacle (F : Forest)
    (hbytes : ∀ n, 0 ≤ (F.node n).startByte ∧ 0 ≤ (F.node n).endByte)
    (source : List UInt8) (m : Match) (includeContent : Bool)
    (tracked : Option (Option NodeId → Bool)) :
    ((∃ d, m.resolve F source includeContent tracked = .ok d) ↔
      m.captures ≠ []
      ∧ (∃ kind n, m.Defines tracked kind n ∧ F.missing n = false
        ∧ (F.range n).InOrder)
      ∧ ∃ naming, m.NamedBy naming ∧ F.Spans source naming)
    ∧ (∀ d, m.resolve F source includeContent tracked = .ok d →
      d.name ≠ "" ∧ d.range.InOrder
      ∧ ∃ kind n naming, m.Defines tracked kind n ∧ m.NamedBy naming
        ∧ d = {
          kind := kind
          name := Utf8.decode (F.span source naming)
          range := F.range n
          content := if includeContent then some (F.span source n) else none })
    ∧ ∀ e, m.resolve F source includeContent tracked = .error e ↔
      StoppedBy F source tracked m e := by
  rcases usable_or_stopped F source tracked m with
    ⟨kind, n, naming, husable⟩ | ⟨e, hstopped⟩
  · -- nothing is in the way, and the match resolves
    have hresolve := resolve_of_usable hbytes includeContent husable
    have hspan : F.span source naming ≠ [] := by
      rw [ne_eq, Forest.span_eq_nil_iff (hbytes naming).1 (hbytes naming).2]
      exact not_not_intro husable.spans
    refine ⟨⟨fun _ => ?_, fun _ => ⟨_, hresolve⟩⟩, fun d hd => ?_,
      fun e => ⟨fun he => ?_, fun hstopped => ?_⟩⟩
    · exact ⟨husable.defines.captures_ne_nil,
        ⟨kind, n, husable.defines, husable.present, husable.inOrder⟩,
        naming, husable.namedBy, husable.spans⟩
    · rw [hresolve] at hd
      cases hd
      refine ⟨fun hempty => hspan ?_, husable.inOrder, kind, n, naming,
        husable.defines, husable.namedBy, rfl⟩
      rw [← List.isEmpty_iff, ← Utf8.isEmpty_decode]
      exact String.isEmpty_iff.mpr hempty
    · rw [hresolve] at he
      cases he
    · rw [resolve_of_stoppedBy hbytes includeContent hstopped] at hresolve
      cases hresolve
  · -- the first obstacle decides, and a usable match has none
    have hresolve := resolve_of_stoppedBy hbytes includeContent hstopped
    refine ⟨⟨?_, ?_⟩, fun d hd => ?_, fun e' => ⟨fun he => ?_, fun hstopped' =>
      resolve_of_stoppedBy hbytes includeContent hstopped'⟩⟩
    · rintro ⟨d, hd⟩
      rw [hresolve] at hd
      cases hd
    · rintro ⟨-, ⟨kind, n, hdefines, hpresent, hrange⟩, naming, hnaming, hspans⟩
      exact ⟨_, resolve_of_usable hbytes includeContent
        ⟨hdefines, hnaming, hpresent, hspans, hrange⟩⟩
    · rw [hresolve] at hd
      cases hd
    · rw [hresolve] at he
      cases he
      exact hstopped

/-- Nodes of the source `f(`: a call with its name, and a call that ends
before it starts with a name that lies behind the source. -/
def tornForest : Forest :=
  ⟨#[{ kind := "call", endByte := 2, endPoint := ⟨0, 2⟩ },
    { kind := "identifier", endByte := 1, endPoint := ⟨0, 1⟩ },
    { kind := "call", startPoint := ⟨1, 0⟩, endPoint := ⟨0, 4⟩ },
    { kind := "identifier", startByte := 5, endByte := 9 }]⟩

/-- The first call becomes a definition. Of the two reasons why the second
does not, the name that reads nothing comes first. -/
theorem Match.resolve_fails_for_first_obstacle_torn :
    (∃ d, Match.resolve tornForest [102, 40]
        ⟨0, [⟨"function", some 0⟩, ⟨"name", some 1⟩]⟩ true none = .ok d
      ∧ d.name ≠ "" ∧ d.range.InOrder)
    ∧ StoppedBy tornForest [102, 40] none
        ⟨1, [⟨"function", some 2⟩, ⟨"name", some 3⟩]⟩
        (.noName 1 "function") := by
  have hbytes : ∀ n, 0 ≤ (tornForest.node n).startByte
      ∧ 0 ≤ (tornForest.node n).endByte := by
    rintro (_ | _ | _ | _ | n) <;> simp [tornForest, Forest.node]
  obtain ⟨-, hfacts, -⟩ := resolve_fails_for_first_obstacle tornForest hbytes
    [102, 40] ⟨0, [⟨"function", some 0⟩, ⟨"name", some 1⟩]⟩ true none
  obtain ⟨-, -, hfaults⟩ := resolve_fails_for_first_obstacle tornForest hbytes
    [102, 40] ⟨1, [⟨"function", some 2⟩, ⟨"name", some 3⟩]⟩ true none
  obtain ⟨hname, hrange, -⟩ := hfacts _ rfl
  exact ⟨⟨_, rfl, hname, hrange⟩, (hfaults _).mp rfl⟩

end Outline
