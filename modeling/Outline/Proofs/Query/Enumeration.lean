/-
The search finds every embedding, and each of them once.

The search hands out placements, from which the shape of the pattern can
no longer be read. So its recursion is repeated here with sendings for
results (`Pattern.sendings`), and three things are said of it, each by
induction on the pattern:

- in a tree it has the embeddings and nothing else (`mem_sendings`);
- it has none of them twice (`nodup_sendings`);
- the placements of the search are those of its sendings
  (`assignments_eq`).

Together they make the matches of a query a list of its embeddings
(`run_perm`).
-/
import Outline.Proofs.Query.Embedding

namespace Outline

open scoped List

namespace Pattern

-- ============================================================ enumeration

mutual

/-- The sendings of a pattern with its root sent to a node. -/
def sendings (F : Forest) (g : Grammar) : Pattern → NodeId → List Sending
  | .node label test _ children, n =>
    if F.hasLabel g n label && test.holds F n then
      (childSendings F g children (F.children n)).map (.node n)
    else []
  | .anyOf label _ alternatives, n =>
    if F.hasLabel g n label then
      (anySendings F g alternatives n).map fun (i, s) => .choice i s
    else []

/-- The sendings of child patterns to siblings, in order. -/
def childSendings (F : Forest) (g : Grammar) :
    List (Bool × Pattern) → List NodeId → List (List Sending)
  | [], _ => [[]]
  | (anchored, p) :: rest, siblings =>
    (F.candidates anchored siblings).flatMap fun (c, later) =>
      (sendings F g p c).flatMap fun s =>
        (childSendings F g rest later).map (s :: ·)

/-- The sendings of any of several patterns, each with the index of its
pattern. -/
def anySendings (F : Forest) (g : Grammar) :
    List Pattern → NodeId → List (Nat × Sending)
  | [], _ => []
  | p :: rest, n =>
    (sendings F g p n).map (0, ·) ++
      (anySendings F g rest n).map fun (i, s) => (i + 1, s)

end

variable {F : Forest} {g : Grammar}

-- ============================================================= membership

mutual

/-- In a tree, the sendings with the root sent to `n` are the embeddings
that send it there. -/
theorem mem_sendings (hF : F.IsTree) {n : NodeId} (hn : n < F.size) :
    ∀ {p : Pattern} {s : Sending},
      s ∈ sendings F g p n ↔ p.Embeds F g s ∧ s.root = n
  | .node label test captures children, s => by
      rw [sendings]
      constructor
      · intro h
        split at h
        next htests =>
          obtain ⟨below, hbelow, rfl⟩ := List.mem_map.mp h
          obtain ⟨hfits, hembeds⟩ :=
            (mem_childSendings hF (hF.row n)).mp hbelow
          obtain ⟨hlabel, htest⟩ := Bool.and_eq_true_iff.mp htests
          exact ⟨.node hn (hF.hasLabel_iff.mp hlabel)
            (NodeTest.holds_iff.mp htest) hfits hembeds, rfl⟩
        next => cases h
      · rintro ⟨h, hroot⟩
        cases h with
        | @node _ _ _ _ _ below _ hlabel htest hfits hembeds =>
            rw [Sending.root] at hroot
            subst hroot
            rw [if_pos (Bool.and_eq_true_iff.mpr
              ⟨hF.hasLabel_iff.mpr hlabel, NodeTest.holds_iff.mpr htest⟩)]
            exact List.mem_map.mpr ⟨below,
              (mem_childSendings hF (hF.row _)).mpr ⟨hfits, hembeds⟩, rfl⟩
  | .anyOf label captures alternatives, s => by
      rw [sendings]
      constructor
      · intro h
        split at h
        next hlabel =>
          obtain ⟨⟨i, t⟩, ht, rfl⟩ := List.mem_map.mp h
          obtain ⟨p, hp, hembeds, hroot⟩ := (mem_anySendings hF hn).mp ht
          have hlabelled : F.Labelled g t.root label := by
            rw [hroot]
            exact hF.hasLabel_iff.mp hlabel
          exact ⟨.anyOf hlabelled hp hembeds, hroot⟩
        next => cases h
      · rintro ⟨h, hroot⟩
        cases h with
        | @anyOf _ _ _ i p t hlabelled hp hembeds =>
            rw [Sending.root] at hroot
            rw [hroot] at hlabelled
            rw [if_pos (hF.hasLabel_iff.mpr hlabelled)]
            exact List.mem_map.mpr ⟨(i, t),
              (mem_anySendings hF hn).mpr ⟨p, hp, hembeds, hroot⟩, rfl⟩

theorem mem_childSendings (hF : F.IsTree) :
    ∀ {children : List (Bool × Pattern)} {siblings : List NodeId}
      {below : List Sending}, F.Row siblings →
      (below ∈ childSendings F g children siblings ↔
        F.Fits siblings (children.map (·.1)) (below.map Sending.root)
        ∧ List.Forall₂ (fun child s => child.2.Embeds F g s) children below)
  | [], siblings, below, _ => by
      rw [childSendings, List.mem_singleton, List.map_nil, Forest.fits_nil,
        List.map_eq_nil_iff, List.forall₂_nil_left_iff, and_self]
  | (anchored, p) :: rest, siblings, below, hrow => by
      rw [childSendings]
      simp only [List.mem_flatMap, List.mem_map, Prod.exists]
      constructor
      · rintro ⟨c, later, hc, s, hs, below, hbelow, rfl⟩
        obtain ⟨passed, rfl, hpassed⟩ := Forest.mem_candidates.mp hc
        obtain ⟨hembeds, rfl⟩ :=
          (mem_sendings hF (hrow.inside c (by simp))).mp hs
        obtain ⟨hfits, hrest⟩ := (mem_childSendings hF hrow.behind).mp hbelow
        exact ⟨hrow.fits_cons.mpr ⟨hpassed, hfits⟩, .cons hembeds hrest⟩
      · rintro ⟨hfits, hall⟩
        cases hall with
        | @cons _ s _ below hembeds hrest =>
            have hmem : s.root ∈ siblings :=
              hfits.mem _ (List.mem_cons_self ..)
            obtain ⟨passed, later, rfl⟩ := List.append_of_mem hmem
            obtain ⟨hpassed, hfits⟩ := hrow.fits_cons.mp hfits
            exact ⟨s.root, later,
              Forest.mem_candidates.mpr ⟨passed, rfl, hpassed⟩, s,
              (mem_sendings hF (hrow.inside _ hmem)).mpr ⟨hembeds, rfl⟩,
              below, (mem_childSendings hF hrow.behind).mpr ⟨hfits, hrest⟩,
              rfl⟩

theorem mem_anySendings (hF : F.IsTree) {n : NodeId} (hn : n < F.size) :
    ∀ {ps : List Pattern} {i : Nat} {s : Sending},
      (i, s) ∈ anySendings F g ps n ↔
        ∃ p, ps[i]? = some p ∧ p.Embeds F g s ∧ s.root = n
  | [], i, s => by simp [anySendings]
  | p :: ps, i, s => by
      rw [anySendings, List.mem_append]
      cases i with
      | zero => simp [mem_sendings hF hn]
      | succ i => simp [mem_anySendings hF hn]

end

-- ============================================================ no repeats

/-- Candidates are different nodes if siblings are. -/
theorem candidates_pairwise {anchored : Bool} {siblings : List NodeId}
    (h : siblings.Pairwise (· < ·)) :
    (F.candidates anchored siblings).Pairwise (·.1 ≠ ·.1) := by
  induction siblings with
  | nil => exact .nil
  | cons c siblings ih =>
      rw [Forest.candidates]
      refine .cons ?_ ?_
      · rintro ⟨d, later⟩ hd
        split at hd
        next => cases hd
        next =>
          obtain ⟨passed, rfl, -⟩ := Forest.mem_candidates.mp hd
          exact Nat.ne_of_lt (List.rel_of_pairwise_cons h
            (List.mem_append_right _ (List.mem_cons_self ..)))
      · split
        next => exact .nil
        next => exact ih h.of_cons

mutual

/-- No sending is listed twice. -/
theorem nodup_sendings (hF : F.IsTree) {n : NodeId} (hn : n < F.size) :
    ∀ {p : Pattern}, (sendings F g p n).Nodup
  | .node label test captures children => by
      rw [sendings]
      split
      next =>
        refine (nodup_childSendings hF (hF.row n)).map ?_
        intro s t hst
        cases hst
        rfl
      next => exact .nil
  | .anyOf label captures alternatives => by
      rw [sendings]
      split
      next =>
        refine (nodup_anySendings hF hn).map ?_
        rintro ⟨i, s⟩ ⟨j, t⟩ hst
        cases hst
        rfl
      next => exact .nil

theorem nodup_childSendings (hF : F.IsTree) :
    ∀ {children : List (Bool × Pattern)} {siblings : List NodeId},
      F.Row siblings → (childSendings F g children siblings).Nodup
  | [], siblings, _ => by
      rw [childSendings]
      exact List.nodup_singleton _
  | (anchored, p) :: rest, siblings, hrow => by
      have hcandidate : ∀ x ∈ F.candidates anchored siblings,
          x.1 < F.size ∧ F.Row x.2 := by
        rintro ⟨c, later⟩ hc
        obtain ⟨passed, rfl, -⟩ := Forest.mem_candidates.mp hc
        exact ⟨hrow.inside c (by simp), hrow.behind⟩
      rw [childSendings, List.nodup_flatMap]
      constructor
      · rintro ⟨c, later⟩ hc
        obtain ⟨hsize, hlater⟩ := hcandidate _ hc
        rw [List.nodup_flatMap]
        constructor
        · intro s _
          refine (nodup_childSendings hF hlater).map ?_
          intro below below' heq
          exact (List.cons.inj heq).2
        · refine (nodup_sendings hF hsize).imp ?_
          intro s t hne below hs ht
          obtain ⟨_, _, rfl⟩ := List.mem_map.mp hs
          obtain ⟨_, _, heq⟩ := List.mem_map.mp ht
          exact hne (List.cons.inj heq).1.symm
      · refine (candidates_pairwise hrow.sorted).imp_of_mem ?_
        rintro ⟨c, later⟩ ⟨d, later'⟩ hc hd hne below hbelow hbelow'
        obtain ⟨s, hs, hbelow⟩ := List.mem_flatMap.mp hbelow
        obtain ⟨_, _, rfl⟩ := List.mem_map.mp hbelow
        obtain ⟨t, ht, hbelow'⟩ := List.mem_flatMap.mp hbelow'
        obtain ⟨_, _, heq⟩ := List.mem_map.mp hbelow'
        obtain ⟨rfl, -⟩ := List.cons.inj heq
        -- one sending has one root
        have hroot := ((mem_sendings hF (hcandidate _ hc).1).mp hs).2
        have hroot' := ((mem_sendings hF (hcandidate _ hd).1).mp ht).2
        exact hne (hroot.symm.trans hroot')

theorem nodup_anySendings (hF : F.IsTree) {n : NodeId} (hn : n < F.size) :
    ∀ {ps : List Pattern}, (anySendings F g ps n).Nodup
  | [] => by
      rw [anySendings]
      exact .nil
  | p :: ps => by
      rw [anySendings]
      refine List.Nodup.append ?_ ?_ ?_
      · exact (nodup_sendings hF hn).map (fun s t hst => (Prod.mk.inj hst).2)
      · refine (nodup_anySendings hF hn).map ?_
        rintro ⟨i, s⟩ ⟨j, t⟩ hst
        cases hst
        rfl
      · intro x hx hx'
        obtain ⟨s, _, rfl⟩ := List.mem_map.mp hx
        obtain ⟨⟨j, t⟩, _, heq⟩ := List.mem_map.mp hx'
        cases heq

end

-- ============================================================= placements

mutual

/-- The parts of a pattern and where a sending sends them, a part before
those below it. `outer` are capture names given to the root from
outside. -/
def placements (outer : List String) : Pattern → Sending → Assignment
  | .node _ _ captures children, .node n below =>
    ⟨captures ++ outer, n⟩ :: childPlacements children below
  | .anyOf _ captures alternatives, .choice i s =>
    anyPlacements (captures ++ outer) alternatives i s
  | .node .., .choice .. => []
  | .anyOf .., .node .. => []

/-- The parts of child patterns and where they are sent. -/
def childPlacements : List (Bool × Pattern) → List Sending → Assignment
  | (_, p) :: rest, s :: below =>
    placements [] p s ++ childPlacements rest below
  | [], _ => []
  | _ :: _, [] => []

/-- The parts of one of several patterns and where they are sent. -/
def anyPlacements (outer : List String) :
    List Pattern → Nat → Sending → Assignment
  | p :: _, 0, s => placements outer p s
  | _ :: rest, i + 1, s => anyPlacements outer rest i s
  | [], _, _ => []

end

mutual

/-- The search has the placements of the sendings. -/
theorem assignments_eq (outer : List String) : ∀ (p : Pattern) (n : NodeId),
    assignments F g outer p n
      = (sendings F g p n).map (placements outer p)
  | .node label test captures children, n => by
      rw [assignments, sendings]
      split
      next =>
        rw [childAssignments_eq children (F.children n), List.map_map,
          List.map_map]
        exact List.map_congr_left fun below _ => by
          simp only [Function.comp, placements]
      next => rfl
  | .anyOf label captures alternatives, n => by
      rw [assignments, sendings]
      split
      next =>
        rw [anyAssignments_eq (captures ++ outer) alternatives n,
          List.map_map]
        exact List.map_congr_left fun x _ => by
          simp only [Function.comp, placements]
      next => rfl

theorem childAssignments_eq :
    ∀ (children : List (Bool × Pattern)) (siblings : List NodeId),
      childAssignments F g children siblings
        = (childSendings F g children siblings).map (childPlacements children)
  | [], siblings => by
      rw [childAssignments, childSendings]
      simp [childPlacements]
  | (anchored, p) :: rest, siblings => by
      rw [childAssignments, childSendings, List.map_flatMap]
      refine List.flatMap_congr fun ⟨c, later⟩ _ => ?_
      dsimp only
      rw [assignments_eq [] p c, List.flatMap_map, List.map_flatMap]
      refine List.flatMap_congr fun s _ => ?_
      rw [childAssignments_eq rest later, List.map_map, List.map_map]
      exact List.map_congr_left fun below _ => by
        simp only [Function.comp, childPlacements]

theorem anyAssignments_eq (outer : List String) :
    ∀ (ps : List Pattern) (n : NodeId),
      anyAssignments F g outer ps n
        = (anySendings F g ps n).map fun x => anyPlacements outer ps x.1 x.2
  | [], n => by
      rw [anyAssignments, anySendings]
      rfl
  | p :: ps, n => by
      rw [anyAssignments, anySendings, assignments_eq outer p n,
        anyAssignments_eq outer ps n, List.map_append, List.map_map,
        List.map_map]
      refine congrArg₂ (· ++ ·) ?_ ?_
      · exact List.map_congr_left fun s _ => by
          simp only [Function.comp, anyPlacements]
      · exact List.map_congr_left fun x _ => by
          simp only [Function.comp, anyPlacements]

end

/-- An embedding stays inside the forest. -/
theorem Embeds.root_lt {p : Pattern} {s : Sending} :
    p.Embeds F g s → s.root < F.size
  | .node inside _ _ _ _ => inside
  | .anyOf _ _ embeds => embeds.root_lt

end Pattern

-- ================================================================= queries

/-- One of the patterns of a query, sent somewhere. -/
structure Embedding where
  pattern : Nat
  sending : Sending
deriving Repr, Inhabited

namespace Query

variable {q : Query} {F : Forest} {g : Grammar}

/-- The sending respects the pattern it is meant for. -/
def Embeds (q : Query) (F : Forest) (g : Grammar) (x : Embedding) : Prop :=
  ∃ p, q.patterns[x.pattern]? = some p ∧ p.Embeds F g x.sending

/-- The parts of a pattern of a query and where they are sent. -/
def placements (q : Query) (x : Embedding) : Assignment :=
  ((q.patterns[x.pattern]?).map fun p => p.placements [] x.sending).getD []

/-- The captures of an embedding, in the order of the pattern. -/
def captures (q : Query) (x : Embedding) : List Capture :=
  (q.placements x).captures

/-- All embeddings, roots in order. -/
def embeddings (q : Query) (F : Forest) (g : Grammar) : List Embedding :=
  F.ids.flatMap fun root =>
    q.patterns.zipIdx.flatMap fun (p, index) =>
      (p.sendings F g root).map (⟨index, ·⟩)

theorem mem_embeddings (hF : F.IsTree) {x : Embedding} :
    x ∈ q.embeddings F g ↔ q.Embeds F g x := by
  simp only [embeddings, List.mem_flatMap, List.mem_map, Prod.exists,
    List.mem_zipIdx_iff_getElem?, Forest.ids, List.mem_range]
  constructor
  · rintro ⟨root, hroot, p, index, hp, s, hs, rfl⟩
    exact ⟨p, hp, ((Pattern.mem_sendings hF hroot).mp hs).1⟩
  · rintro ⟨p, hp, hembeds⟩
    exact ⟨x.sending.root, hembeds.root_lt, p, x.pattern, hp, x.sending,
      (Pattern.mem_sendings hF hembeds.root_lt).mpr ⟨hembeds, rfl⟩, rfl⟩

/-- No embedding is listed twice: roots tell them apart, and then the
indices of patterns do. -/
theorem nodup_embeddings (hF : F.IsTree) : (q.embeddings F g).Nodup := by
  rw [embeddings, List.nodup_flatMap]
  constructor
  · intro root hroot
    have hroot : root < F.size := List.mem_range.mp hroot
    rw [List.nodup_flatMap]
    constructor
    · rintro ⟨p, index⟩ _
      refine (Pattern.nodup_sendings hF hroot).map ?_
      intro s t hst
      cases hst
      rfl
    · have hindex : (q.patterns.zipIdx.map Prod.snd).Nodup := by
        rw [List.zipIdx_map_snd]
        exact List.nodup_range' _
      refine (List.pairwise_map.mp hindex).imp ?_
      rintro ⟨p, i⟩ ⟨p', j⟩ hne x hx hx'
      obtain ⟨s, _, rfl⟩ := List.mem_map.mp hx
      obtain ⟨t, _, heq⟩ := List.mem_map.mp hx'
      exact hne (congrArg Embedding.pattern heq).symm
  · refine List.nodup_range.imp_of_mem ?_
    intro root root' hroot hroot' hne x hx hx'
    obtain ⟨⟨p, i⟩, _, hx⟩ := List.mem_flatMap.mp hx
    obtain ⟨s, hs, rfl⟩ := List.mem_map.mp hx
    obtain ⟨⟨p', j⟩, _, hx'⟩ := List.mem_flatMap.mp hx'
    obtain ⟨t, ht, heq⟩ := List.mem_map.mp hx'
    cases heq
    have hs := (Pattern.mem_sendings hF (List.mem_range.mp hroot)).mp hs
    have ht := (Pattern.mem_sendings hF (List.mem_range.mp hroot')).mp ht
    exact hne (hs.2.symm.trans ht.2)

/-- The occurrences of a search are those of the embeddings. -/
theorem occurrences_eq (hF : F.IsTree) :
    q.occurrences F g = (q.embeddings F g).map fun x =>
      ⟨x.pattern, x.sending.root, q.placements x⟩ := by
  rw [occurrences, embeddings, List.map_flatMap]
  refine List.flatMap_congr fun root hroot => ?_
  rw [List.map_flatMap]
  refine List.flatMap_congr fun ⟨p, index⟩ hp => ?_
  dsimp only
  rw [Pattern.assignments_eq, List.map_map, List.map_map]
  refine List.map_congr_left fun s hs => ?_
  have hroot := ((Pattern.mem_sendings hF (List.mem_range.mp hroot)).mp hs).2
  have hlookup : q.patterns[index]? = some p :=
    List.mem_zipIdx_iff_getElem?.mp hp
  simp only [Function.comp, placements, hlookup, hroot, Option.map_some,
    Option.getD_some]

/-- The matches of a query are its embeddings, each with its captures
grouped by name. -/
theorem run_perm (hF : F.IsTree) :
    q.run F g ~ (q.embeddings F g).map fun x =>
      ⟨x.pattern, Capture.grouped (q.captures x)⟩ := by
  have hsorted := (List.mergeSort_perm (q.occurrences F g)
    (Occurrence.le F)).map Occurrence.toMatch
  rw [run]
  refine hsorted.trans ?_
  rw [occurrences_eq hF, List.map_map]
  exact .refl _

end Query

end Outline
