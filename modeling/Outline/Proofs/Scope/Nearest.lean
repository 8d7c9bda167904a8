/-
The nearest scope around a definition.

What a search looks for is said here by the links alone: a proper
ancestor of a listed kind with nothing on the way that is of a listed
kind, stops the search or is missing (`Nearest`). A search without a
cycle finds exactly that (`Acyclic.firstBoundary_climb`).

Where the search of a match begins is decided twice: it is started at the
parent of the definition, and the rules say whether the node it is
started at counts. If it does, the nearest scope around the definition is
found. If it does not, the parent is passed over unread, so the answer is
the nearest scope around the parent; the two are the same only if there
was nothing to read at the parent (`nearest_parent_iff`).
-/
import Outline.Language.Registry
import Outline.Proofs.Tree.Ancestry
import Outline.Proofs.Tree.Preorder

namespace Outline

/-- The kinds at which the search for a function gives up. -/
def ScopeRules.functionStops (rules : ScopeRules) : List String :=
  if rules.stopFunctionAtType then rules.typeKinds else []

namespace Forest

variable {F : Forest} {kinds stops : List String} {n p t : NodeId}

/-- `t` is the closest proper ancestor of `n` of one of `kinds`, neither
`t` nor a node between is missing, and none between is one of `stops`. -/
def Nearest (F : Forest) (kinds stops : List String) (n t : NodeId) : Prop :=
  ∃ between, F.Ancestor n between t ∧ F.kind t ∈ kinds
    ∧ F.missing t = false
    ∧ ∀ b ∈ between, F.kind b ∉ kinds ∧ F.kind b ∉ stops
      ∧ F.missing b = false

/-- There is nothing to read at the parent of `n`: it is not of one of
`kinds` or `stops`, and not missing. -/
def ParentPasses (F : Forest) (kinds stops : List String)
    (n : NodeId) : Prop :=
  ∀ p, F.parent n = some p →
    F.kind p ∉ kinds ∧ F.kind p ∉ stops ∧ F.missing p = false

theorem Nearest.exists_parent (h : F.Nearest kinds stops n t) :
    ∃ p, F.parent n = some p := by
  obtain ⟨between, hclimbs, -⟩ := h
  cases between with
  | nil => exact ⟨t, hclimbs⟩
  | cons p between => exact ⟨p, hclimbs.1⟩

/-- Where there is nothing to read at the parent, it has the same scopes
around it. -/
theorem nearest_parent_iff (hpasses : F.ParentPasses kinds stops n)
    (hparent : F.parent n = some p) :
    F.Nearest kinds stops n t ↔ F.Nearest kinds stops p t := by
  obtain ⟨hkinds, hstops, hmissing⟩ := hpasses p hparent
  constructor
  · rintro ⟨between, hclimbs, hkind, hpresent, hbetween⟩
    cases between with
    | nil =>
        have htp : p = t := Option.some.inj (hparent.symm.trans hclimbs)
        subst htp
        exact absurd hkind hkinds
    | cons q between =>
        have hqp : p = q := Option.some.inj (hparent.symm.trans hclimbs.1)
        subst hqp
        exact ⟨between, hclimbs.2, hkind, hpresent, fun b hb =>
          hbetween b (List.mem_cons_of_mem _ hb)⟩
  · rintro ⟨between, hclimbs, hkind, hpresent, hbetween⟩
    refine ⟨p :: between, ⟨hparent, hclimbs⟩, hkind, hpresent, ?_⟩
    intro b hb
    rcases List.mem_cons.mp hb with rfl | hb
    · exact ⟨hkinds, hstops, hmissing⟩
    · exact hbetween b hb

-- ============================================================== searches

/-- The first boundary of a chain, with what comes before it. -/
theorem firstBoundary_eq_some_iff {isBoundary isStop : NodeId → Bool}
    {chain : List NodeId} :
    F.firstBoundary isBoundary isStop chain = some t ↔
      ∃ between, (∃ above, chain = between ++ t :: above)
        ∧ isBoundary t = true ∧ F.missing t = false
        ∧ ∀ b ∈ between, isBoundary b = false ∧ isStop b = false
          ∧ F.missing b = false := by
  induction chain with
  | nil => simp [firstBoundary]
  | cons n chain ih =>
      rw [firstBoundary]
      constructor
      · intro h
        split at h
        next => cases h
        next hmissing =>
          split at h
          next hboundary =>
            cases h
            exact ⟨[], ⟨chain, rfl⟩, hboundary,
              Bool.eq_false_iff.mpr hmissing, nofun⟩
          next hboundary =>
            split at h
            next => cases h
            next hstop =>
              obtain ⟨between, ⟨above, rfl⟩, ht, hpresent, hbetween⟩ :=
                ih.mp h
              refine ⟨n :: between, ⟨above, rfl⟩, ht, hpresent, ?_⟩
              intro b hb
              rcases List.mem_cons.mp hb with rfl | hb
              · exact ⟨Bool.eq_false_iff.mpr hboundary,
                  Bool.eq_false_iff.mpr hstop,
                  Bool.eq_false_iff.mpr hmissing⟩
              · exact hbetween b hb
      · rintro ⟨between, ⟨above, hchain⟩, ht, hpresent, hbetween⟩
        cases between with
        | nil =>
            obtain ⟨rfl, -⟩ := List.cons.inj hchain
            simp [ht, hpresent]
        | cons b between =>
            obtain ⟨rfl, rfl⟩ := List.cons.inj hchain
            obtain ⟨hboundary, hstop, hmissing⟩ :=
              hbetween n (List.mem_cons_self ..)
            rw [if_neg (by simp [hmissing]), if_neg (by simp [hboundary]),
              if_neg (by simp [hstop])]
            exact ih.mpr ⟨between, ⟨above, rfl⟩, ht, hpresent, fun b hb =>
              hbetween b (List.mem_cons_of_mem _ hb)⟩

/-- A search that climbs from the parent of a node finds the nearest
scope around the node. -/
theorem Acyclic.firstBoundary_climb (hF : F.Acyclic) :
    F.firstBoundary (F.kindIn kinds) (F.kindIn stops)
        (F.climb (F.parent n) (F.size + 1)) = some t ↔
      F.Nearest kinds stops n t := by
  rw [firstBoundary_eq_some_iff]
  simp only [hF.climb_split_iff, kindIn, List.contains_eq_mem,
    decide_eq_true_eq, decide_eq_false_iff_not]
  rfl

/-- The type around a node was searched for. -/
theorem search_of_enclosingType {rules : ScopeRules} {start : Option NodeId}
    (h : F.enclosingType rules start = some t) :
    F.search start (F.kindIn rules.typeKinds) rules.startAtSelf none
      = some t := by
  unfold enclosingType at h
  split at h
  next => cases h
  next => exact h

/-- So was the function around it. -/
theorem search_of_enclosingFunction {rules : ScopeRules}
    {start : Option NodeId} (h : F.enclosingFunction rules start = some t) :
    F.search start (F.kindIn rules.functionKinds) rules.startAtSelf
        (if rules.stopFunctionAtType then some (F.kindIn rules.typeKinds)
          else none)
      = some t := by
  unfold enclosingFunction at h
  split at h
  next => cases h
  next => exact h

/-- The node whose ancestors a search goes through that is started at the
parent of `n`. -/
def searchOrigin (F : Forest) (rules : ScopeRules) (n : NodeId) :
    Option NodeId :=
  if rules.startAtSelf then some n else F.parent n

/-- A search for `kinds` that is started at the parent of `n`, if there
are kinds to look for at all. -/
theorem Acyclic.search_parent (hF : F.Acyclic) (rules : ScopeRules)
    {isStop : Option (NodeId → Bool)}
    (hstop : (isStop.getD fun _ => false) = F.kindIn stops) :
    ((F.parent n).bind fun p => if kinds.isEmpty then none
        else F.search (some p) (F.kindIn kinds) rules.startAtSelf isStop)
          = some t ↔
      ∃ o, F.searchOrigin rules n = some o ∧ F.Nearest kinds stops o t := by
  by_cases hkinds : kinds.isEmpty = true
  · simp [List.isEmpty_iff.mp hkinds, Nearest]
  · simp only [if_neg hkinds, search, searchChain, hstop, searchOrigin]
    cases hparent : F.parent n with
    | none =>
        cases rules.startAtSelf with
        | true =>
            simp only [Option.bind_none, if_true, Option.some.injEq,
              exists_eq_left', reduceCtorEq, false_iff]
            intro h
            obtain ⟨p, hp⟩ := h.exists_parent
            rw [hparent] at hp
            cases hp
        | false => simp
    | some p =>
        cases rules.startAtSelf with
        | true =>
            simp only [Option.bind_some, if_true, Option.some.injEq,
              exists_eq_left']
            rw [← hparent]
            exact hF.firstBoundary_climb
        | false =>
            simp only [Option.bind_some, Bool.false_eq_true, if_false,
              Option.some.injEq, exists_eq_left']
            exact hF.firstBoundary_climb

/-- The node around which scopes are found is the definition itself, if
the rules count the start or there is nothing to read at the parent. -/
theorem exists_searchOrigin_iff {rules : ScopeRules}
    (h : rules.startAtSelf = true ∨ F.ParentPasses kinds stops n) :
    (∃ o, F.searchOrigin rules n = some o ∧ F.Nearest kinds stops o t) ↔
      F.Nearest kinds stops n t := by
  unfold searchOrigin
  split
  next => simp
  next hself =>
    have hpasses := h.resolve_left hself
    constructor
    · rintro ⟨p, hparent, hnearest⟩
      exact (nearest_parent_iff hpasses hparent).mpr hnearest
    · intro hnearest
      obtain ⟨p, hparent⟩ := hnearest.exists_parent
      exact ⟨p, hparent, (nearest_parent_iff hpasses hparent).mp hnearest⟩

end Forest

-- =============================================================== matches

namespace Language

variable {l : Language} {F : Forest} {m : Match} {c : Capture}

/-- A match with a definition is processed, and the searches for its
scopes are started at the parent of the definition. -/
theorem process_of_definition
    (hc : (Anchors.select (some (l.tracks F)) m.captures).definition
      = some c) :
    ∃ d, c.node = some d ∧ l.process F m true = .ok
      { pattern := m.pattern
        anchors := Anchors.select (some (l.tracks F)) m.captures
        enclosingType := (F.parent d).bind fun p =>
          F.enclosingType l.scopeRules (some p)
        enclosingFunction := (F.parent d).bind fun p =>
          F.enclosingFunction l.scopeRules (some p) } := by
  have hmem : c ∈ m.captures := List.mem_of_find?_eq_some hc
  have htracked : l.tracks F c.node = true := by
    have hfound := List.find?_some hc
    simp only [Bool.and_eq_true] at hfound
    exact hfound.2
  cases hnode : c.node with
  | none =>
      rw [hnode] at htracked
      cases htracked
  | some d =>
      refine ⟨d, rfl, ?_⟩
      rw [process, if_neg (by
        rw [List.isEmpty_iff]
        exact List.ne_nil_of_mem hmem)]
      simp only [if_true, hc, Option.bind_some, hnode]

/-- Every match with a definition gets the nearest type and the nearest
function strictly around the definition if the rules count the node a
search is started at, and also if there is nothing to read at the parent
of the definition. Otherwise it gets those around the parent. -/
theorem process_finds_nearest_scopes (l : Language) (F : Forest)
    (hF : F.Acyclic) (m : Match) (c : Capture)
    (hc : (Anchors.select (some (l.tracks F)) m.captures).definition
      = some c) :
    ∃ p d, l.process F m true = .ok p ∧ p.anchors.definition = some c
      ∧ c.node = some d
      ∧ (l.scopeRules.startAtSelf = true
            ∨ F.ParentPasses l.scopeRules.typeKinds [] d →
          ∀ t, p.enclosingType = some t ↔
            F.Nearest l.scopeRules.typeKinds [] d t)
      ∧ (l.scopeRules.startAtSelf = true
            ∨ F.ParentPasses l.scopeRules.functionKinds
              l.scopeRules.functionStops d →
          ∀ f, p.enclosingFunction = some f ↔
            F.Nearest l.scopeRules.functionKinds
              l.scopeRules.functionStops d f)
      ∧ (l.scopeRules.startAtSelf = false →
          (∀ t, p.enclosingType = some t ↔ ∃ around, F.parent d = some around
            ∧ F.Nearest l.scopeRules.typeKinds [] around t)
          ∧ ∀ f, p.enclosingFunction = some f ↔
            ∃ around, F.parent d = some around
              ∧ F.Nearest l.scopeRules.functionKinds
                l.scopeRules.functionStops around f) := by
  obtain ⟨d, hnode, hprocess⟩ := process_of_definition hc
  have htype : ∀ t, ((F.parent d).bind fun p =>
      F.enclosingType l.scopeRules (some p)) = some t ↔
        ∃ o, F.searchOrigin l.scopeRules d = some o
          ∧ F.Nearest l.scopeRules.typeKinds [] o t := fun t =>
    hF.search_parent l.scopeRules (by
      funext b
      simp [Forest.kindIn])
  have hfunction : ∀ f, ((F.parent d).bind fun p =>
      F.enclosingFunction l.scopeRules (some p)) = some f ↔
        ∃ o, F.searchOrigin l.scopeRules d = some o
          ∧ F.Nearest l.scopeRules.functionKinds
            l.scopeRules.functionStops o f := fun f =>
    hF.search_parent l.scopeRules (by
      funext b
      unfold ScopeRules.functionStops
      split <;> simp [Forest.kindIn])
  refine ⟨_, d, hprocess, hc, hnode, fun h t => ?_, fun h f => ?_,
    fun hself => ⟨fun t => ?_, fun f => ?_⟩⟩
  · exact (htype t).trans (Forest.exists_searchOrigin_iff h)
  · exact (hfunction f).trans (Forest.exists_searchOrigin_iff h)
  · rw [htype t, Forest.searchOrigin, hself]
    rfl
  · rw [hfunction f, Forest.searchOrigin, hself]
    rfl

end Language

/-- `class A: def f` in Python. -/
def methodSource : List UInt8 :=
  [99, 108, 97, 115, 115, 32, 65, 58, 32, 100, 101, 102, 32, 102]

/-- The tree of `class A: def f`, with a block around the function. -/
def methodForest : Forest :=
  .ofPreorder methodSource [
    ⟨0, "class_definition", none, 0, 14, true, false⟩,
    ⟨1, "identifier", some "name", 6, 7, true, false⟩,
    ⟨1, "block", some "body", 9, 14, true, false⟩,
    ⟨2, "function_definition", none, 9, 14, true, false⟩,
    ⟨3, "identifier", some "name", 13, 14, true, false⟩]

/-- The class is found around the function, across the block. -/
theorem Language.process_finds_nearest_scopes_method :
    ∃ l p, LanguagePack.python.register .installed = .ok l ∧ methodForest.Acyclic
      ∧ methodForest.ParentPasses l.scopeRules.typeKinds [] 3
      ∧ l.process methodForest
          ⟨0, [⟨"function", some 3⟩, ⟨"name", some 4⟩]⟩ true = .ok p
      ∧ p.enclosingType = some 0 := by
  obtain ⟨l, hl⟩ : ∃ l, LanguagePack.python.register .installed = .ok l :=
    ⟨_, rfl⟩
  have hF : methodForest.Acyclic := (Forest.isTree_ofPreorder ..).acyclic
  obtain ⟨p, d, hprocess, -, hd, htype, -, -⟩ := process_finds_nearest_scopes
    l methodForest hF ⟨0, [⟨"function", some 3⟩, ⟨"name", some 4⟩]⟩
    ⟨"function", some 3⟩ (by cases hl; rfl)
  cases hd
  cases hl
  have hpasses : methodForest.ParentPasses ["class_definition"] [] 3 := by
    intro around haround
    cases haround
    decide
  refine ⟨_, p, rfl, hF, hpasses, hprocess, (htype (.inr hpasses) 0).mpr ?_⟩
  exact ⟨[2], ⟨rfl, rfl⟩, by decide, rfl, by decide⟩

-- without a block the class is the parent, and is passed over
example :
    ((LanguagePack.python.register .installed).toOption.map fun l =>
      (l.process (.ofPreorder [] [
          ⟨0, "class_definition", none, 0, 12, true, false⟩,
          ⟨1, "function_definition", none, 7, 12, true, false⟩,
          ⟨2, "identifier", some "name", 11, 12, true, false⟩])
        ⟨0, [⟨"function", some 1⟩, ⟨"name", some 2⟩]⟩ true).toOption.map
          (·.enclosingType)) = some (some none) := by
  decide +kernel

end Outline
