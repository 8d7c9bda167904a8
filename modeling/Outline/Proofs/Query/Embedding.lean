/-
Embeddings: what a match is, said without a search.

A sending says for every node of a pattern which node of the forest it
is sent to, and for every list of alternatives which of them is meant.
It is an embedding if it respects what the pattern says: kind and
namedness, labels, links to children, the order of siblings, and
anchors (`Pattern.Embeds`). Nothing here says how embeddings are found.

The search meets this description in a tree. Its tests are the
conditions above (`hasLabel_iff`, `holds_iff`), and walking along the
siblings of a tree, from the first one or from behind the one used last,
is the same as respecting order and anchors (`Row.fits_cons`).
-/
import Mathlib.Data.List.Nodup
import Mathlib.Tactic.ByContra
import Outline.Query.Search

namespace Outline

-- ============================================================== sendings

/-- Where the nodes of a pattern are sent. -/
inductive Sending where
  /-- A node pattern goes to `n`, its children go `below`. -/
  | node (n : NodeId) (below : List Sending)
  /-- Of several alternatives the one with this index is meant. -/
  | choice (index : Nat) (chosen : Sending)
deriving Repr, Inhabited

/-- Where the root of a pattern is sent. -/
def Sending.root : Sending → NodeId
  | .node n _ => n
  | .choice _ s => s.root

-- ============================================================ conditions

/-- What a pattern asks of a node itself, as a condition. -/
def NodeTest.Holds (F : Forest) (n : NodeId) : NodeTest → Prop
  | .any => True
  | .named => F.named n = true
  | .kind k => F.named n = true ∧ F.kind n = k
  | .literal text => F.named n = false ∧ F.kind n = text

/-- The node has the label of a pattern, if there is one. Under a leading
label of the grammar no earlier sibling has it. -/
def Forest.Labelled (F : Forest) (g : Grammar) (n : NodeId) :
    Option String → Prop
  | none => True
  | some label =>
    F.field n = some label ∧
      ∀ p, F.parent n = some p → (F.kind p, label) ∈ g.leading →
        ∀ c, F.parent c = some p → F.field c = some label → n ≤ c

/-- Child patterns, anchored or not, are sent to some of `siblings`: in
strictly increasing order, and with no named sibling between an anchored
one and the one before it. -/
structure Forest.Fits (F : Forest) (siblings : List NodeId)
    (anchors : List Bool) (nodes : List NodeId) : Prop where
  length : anchors.length = nodes.length
  mem : ∀ c ∈ nodes, c ∈ siblings
  increasing : nodes.Pairwise (· < ·)
  anchored : ∀ i c, anchors[i]? = some true → nodes[i]? = some c →
    ∀ b ∈ siblings, (∀ a ∈ nodes.take i, a < b) → b < c → F.named b = false

/-- A sending respects a pattern. -/
inductive Pattern.Embeds (F : Forest) (g : Grammar) :
    Pattern → Sending → Prop
  | node {label : Option String} {test : NodeTest} {captures : List String}
      {children : List (Bool × Pattern)} {n : NodeId} {below : List Sending}
      (inside : n < F.size) (labelled : F.Labelled g n label)
      (holds : test.Holds F n)
      (fits : F.Fits (F.children n) (children.map (·.1))
        (below.map Sending.root))
      (embeds : List.Forall₂ (fun child s => Embeds F g child.2 s)
        children below) :
      Embeds F g (.node label test captures children) (.node n below)
  | anyOf {label : Option String} {captures : List String}
      {alternatives : List Pattern} {i : Nat} {p : Pattern} {s : Sending}
      (labelled : F.Labelled g s.root label)
      (chosen : alternatives[i]? = some p) (embeds : Embeds F g p s) :
      Embeds F g (.anyOf label captures alternatives) (.choice i s)

-- ================================================================= tests

theorem NodeTest.holds_iff {F : Forest} {n : NodeId} {test : NodeTest} :
    test.holds F n = true ↔ test.Holds F n := by
  cases test <;> simp [holds, Holds]

namespace Forest

variable {F : Forest} {g : Grammar} {n p c : NodeId} {label : String}

/-- Beyond the list there are no links. -/
theorem lt_size_of_parent (h : F.parent n = some p) : n < F.size := by
  unfold parent node at h
  by_contra hsize
  rw [Array.getD_eq_getD_getElem?, Array.getElem?_eq_none (by
    simpa [size] using hsize)] at h
  cases h

/-- In a tree a label leads to a node if that is the first child with
it. -/
theorem IsTree.childByField_eq_some (hF : F.IsTree)
    (hparent : F.parent n = some p) (hfield : F.field n = some label) :
    F.childByField p label = some n ↔
      ∀ c, F.parent c = some p → F.field c = some label → n ≤ c := by
  rw [hF.fields, List.find?_eq_some_iff_append]
  have hmem : n ∈ F.children p := (hF.mem_children p n).mpr hparent
  constructor
  · rintro ⟨-, before, after, hsplit, hbefore⟩ c hc hcfield
    have hsorted := hF.sorted p
    have hc : c ∈ F.children p := (hF.mem_children p c).mpr hc
    rw [hsplit] at hc hsorted
    rcases List.mem_append.mp hc with hc | hc
    · simpa [hcfield] using hbefore c hc
    · rcases List.mem_cons.mp hc with rfl | hc
      · exact Nat.le_refl c
      · exact Nat.le_of_lt
          (List.rel_of_pairwise_cons (List.pairwise_append.mp hsorted).2.1 hc)
  · intro hfirst
    obtain ⟨before, after, hsplit⟩ := List.append_of_mem hmem
    refine ⟨by simp [hfield], before, after, hsplit, fun a ha => ?_⟩
    have hsorted := hF.sorted p
    rw [hsplit] at hsorted
    have hlt := (List.pairwise_append.mp hsorted).2.2 a ha n
      (List.mem_cons_self ..)
    have hparent : F.parent a = some p := by
      rw [← hF.mem_children, hsplit]
      exact List.mem_append_left _ ha
    simp only [Bool.not_eq_true', beq_eq_false_iff_ne]
    intro hafield
    exact Nat.not_le_of_lt hlt (hfirst a hparent hafield)

theorem IsTree.hasLabel_iff (hF : F.IsTree) {label : Option String} :
    F.hasLabel g n label = true ↔ F.Labelled g n label := by
  cases label with
  | none => simp [hasLabel, Labelled]
  | some label =>
      simp only [hasLabel, Labelled, Bool.and_eq_true, beq_iff_eq]
      refine and_congr_right fun hfield => ?_
      cases hparent : F.parent n with
      | none => simp
      | some p =>
          simp only [Bool.or_eq_true, Bool.not_eq_true', beq_iff_eq,
            Option.some.injEq, forall_eq', List.contains_eq_mem,
            hF.childByField_eq_some hparent hfield, decide_eq_false_iff_not]
          exact or_iff_not_imp_left.trans (by rw [not_not])

-- =============================================================== walking

/-- Siblings as a tree lists them: in order, and inside the forest. -/
structure Row (F : Forest) (siblings : List NodeId) : Prop where
  sorted : siblings.Pairwise (· < ·)
  inside : ∀ c ∈ siblings, c < F.size

theorem IsTree.row (hF : F.IsTree) (n : NodeId) : F.Row (F.children n) where
  sorted := hF.sorted n
  inside c hc := lt_size_of_parent ((hF.mem_children n c).mp hc)

/-- What is behind a sibling is a row again. -/
theorem Row.behind {passed later : List NodeId}
    (h : F.Row (passed ++ c :: later)) : F.Row later where
  sorted := (List.pairwise_append.mp h.sorted).2.1.of_cons
  inside d hd :=
    h.inside d (List.mem_append_right _ (List.mem_cons_of_mem _ hd))

/-- A child pattern may be sent to a sibling if all that is passed over
on the way is unnamed, or if it is not anchored. -/
theorem mem_candidates {anchored : Bool} {siblings later : List NodeId} :
    (c, later) ∈ F.candidates anchored siblings ↔
      ∃ passed, siblings = passed ++ c :: later
        ∧ (anchored = true → ∀ b ∈ passed, F.named b = false) := by
  induction siblings with
  | nil => simp [candidates]
  | cons d siblings ih =>
      rw [candidates, List.mem_cons]
      constructor
      · rintro (hhere | hthere)
        · cases hhere
          exact ⟨[], rfl, fun _ b hb => by cases hb⟩
        · split at hthere
          next => cases hthere
          next hpass =>
            obtain ⟨passed, rfl, hpassed⟩ := ih.mp hthere
            refine ⟨d :: passed, rfl, fun hanchored b hb => ?_⟩
            rcases List.mem_cons.mp hb with rfl | hb
            · simpa [hanchored] using hpass
            · exact hpassed hanchored b hb
      · rintro ⟨passed, hsplit, hpassed⟩
        cases passed with
        | nil =>
            cases hsplit
            exact .inl rfl
        | cons e passed =>
            obtain ⟨rfl, rfl⟩ := List.cons.inj hsplit
            have hpass : (anchored && F.named d) = false := by
              cases anchored with
              | false => rfl
              | true => simpa using hpassed rfl d (List.mem_cons_self ..)
            rw [hpass]
            exact .inr (ih.mpr ⟨passed, rfl, fun hanchored b hb =>
              hpassed hanchored b (List.mem_cons_of_mem _ hb)⟩)

theorem fits_nil {siblings nodes : List NodeId} :
    F.Fits siblings [] nodes ↔ nodes = [] := by
  constructor
  · intro h
    exact List.length_eq_zero_iff.mp h.length.symm
  · rintro rfl
    exact ⟨rfl, nofun, .nil, nofun⟩

/-- Child patterns fit siblings in order if the first one does and the
others fit what is behind it. -/
theorem Row.fits_cons {anchored : Bool} {anchors : List Bool}
    {passed later nodes : List NodeId}
    (hrow : F.Row (passed ++ c :: later)) :
    F.Fits (passed ++ c :: later) (anchored :: anchors) (c :: nodes) ↔
      (anchored = true → ∀ b ∈ passed, F.named b = false)
      ∧ F.Fits later anchors nodes := by
  obtain ⟨-, hbehind, hbefore⟩ := List.pairwise_append.mp hrow.sorted
  have hlater : ∀ b ∈ later, c < b := fun b hb =>
    List.rel_of_pairwise_cons hbehind hb
  have hpassed : ∀ b ∈ passed, b < c := fun b hb =>
    hbefore b hb c (List.mem_cons_self ..)
  -- order alone says on which side of `c` a sibling is
  have hside : ∀ b ∈ passed ++ c :: later, (b < c ↔ b ∈ passed)
      ∧ (c < b ↔ b ∈ later) := by
    intro b hb
    refine ⟨⟨fun hlt => ?_, hpassed b⟩, fun hlt => ?_, hlater b⟩
    · rcases List.mem_append.mp hb with hb | hb
      · exact hb
      · rcases List.mem_cons.mp hb with rfl | hb
        · exact absurd hlt (Nat.lt_irrefl b)
        · exact absurd hlt (Nat.lt_asymm (hlater b hb))
    · rcases List.mem_append.mp hb with hb | hb
      · exact absurd hlt (Nat.lt_asymm (hpassed b hb))
      · rcases List.mem_cons.mp hb with rfl | hb
        · exact absurd hlt (Nat.lt_irrefl b)
        · exact hb
  constructor
  · intro h
    refine ⟨fun hanchored b hb => ?_, ?_, ?_, ?_, ?_⟩
    · exact h.anchored 0 c (by rw [hanchored]; rfl) rfl b
        (List.mem_append_left _ hb) (by simp) (hpassed b hb)
    · exact Nat.succ.inj h.length
    · intro d hd
      have hlt := List.rel_of_pairwise_cons h.increasing hd
      exact (hside d (h.mem d (List.mem_cons_of_mem _ hd))).2.mp hlt
    · exact h.increasing.of_cons
    · intro i d hi hd b hb hprevious hlt
      refine h.anchored (i + 1) d hi hd b
        (List.mem_append_right _ (List.mem_cons_of_mem _ hb)) ?_ hlt
      intro a ha
      rcases List.mem_cons.mp ha with rfl | ha
      · exact hlater b hb
      · exact hprevious a ha
  · rintro ⟨hfirst, h⟩
    refine ⟨congrArg Nat.succ h.length, ?_, ?_, ?_⟩
    · intro d hd
      rcases List.mem_cons.mp hd with rfl | hd
      · simp
      · exact List.mem_append_right _ (List.mem_cons_of_mem _ (h.mem d hd))
    · exact .cons (fun d hd => hlater d (h.mem d hd)) h.increasing
    · intro i d hi hd b hb hprevious hlt
      cases i with
      | zero =>
          cases hd
          exact hfirst (Option.some.inj hi) b ((hside b hb).1.mp hlt)
      | succ i =>
          have hcb := hprevious c (List.mem_cons_self ..)
          exact h.anchored i d hi hd b ((hside b hb).2.mp hcb)
            (fun a ha => hprevious a (List.mem_cons_of_mem _ ha)) hlt

end Forest

end Outline
