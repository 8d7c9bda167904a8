/-
Types as the scopes of their members.

A pack says twice which nodes are types: its patterns capture them as
classes, structs or interfaces, and its scope rules list the kinds at
which a search for a type ends. The two lists are compared here. They
agree but for one kind in each of four languages
(`LanguagePack.unscopedTypes`), at which searches pass by.

Where they agree, a definition inside a type has that type for its scope,
if the search gets there at all: nothing of a listed kind may lie between
the two, and something must, since some languages do not look at the
parent of a definition. The scope is reported under the name of the type
if the node that names the scope is the one that the pattern captured.
All languages but Kotlin ask for that node by its label.
-/
import Outline.Proofs.Extraction.ScopeNames

namespace Outline

/-- The kinds of definitions that are types with members. -/
def DefinitionKind.typeNames : List String :=
  [classType.name, struct.name, interface.name]

/-- The kinds of nodes that a pack reports as types but does not list
among its scopes. -/
def LanguagePack.unscopedTypes (pack : LanguagePack) : List String :=
  match pack.name with
  | "java" => ["annotation_type_declaration"]
  | "rust" => ["union_item"]
  | "cpp" => ["union_specifier"]
  | "csharp" => ["record_declaration"]
  | _ => []

-- ============================================================ two tables

/-- Whether types are captured on nodes of these kinds only. -/
def Profile.typesAmong (kinds : List String) : Profile → Bool
  | (kind, .kind node) :: _ =>
    !DefinitionKind.typeNames.contains kind || kinds.contains node
  | _ => false

theorem Profile.Describes.kind_of_typesAmong {F : Forest}
    {kinds : List String} {profile : Profile} {site : Site}
    (h : profile.Describes F site.captures)
    (hamong : profile.typesAmong kinds = true)
    (htype : site.kind ∈ DefinitionKind.typeNames) :
    F.kind site.definition ∈ kinds := by
  unfold typesAmong at hamong
  split at hamong
  next kind node rest =>
    obtain ⟨_, _, ⟨hkind, n, hn, -, hnode⟩, -, heq⟩ :=
      List.forall₂_cons_left_iff.mp h
    cases heq
    cases hn
    have hkind : site.kind = kind := hkind
    rw [← hkind, Bool.or_eq_true, Bool.not_eq_true', List.contains_eq_mem,
      List.contains_eq_mem] at hamong
    rw [hnode]
    simpa [htype] using hamong
  next => cases hamong

namespace Language

variable {l : Language} {F : Forest} {g : Grammar} {m : Match}
  {source : List UInt8} {options : ExtractOptions} {site : Site}
  {e : Emission} {kinds : List String} {d t : NodeId}

/-- Whether the query of a language captures types on nodes of these
kinds only. -/
def typesAmong (kinds : List String) (l : Language) : Bool :=
  l.query.patterns.all fun p => (p.profiles []).all (Profile.typesAmong kinds)

theorem kind_of_typesAmong (hl : l.typesAmong kinds = true) {x : Embedding}
    (hx : l.query.Embeds F g x)
    (hcaptures : l.query.captures x = site.captures)
    (htype : site.kind ∈ DefinitionKind.typeNames) :
    F.kind site.definition ∈ kinds := by
  obtain ⟨p, hp, hembeds⟩ := hx
  obtain ⟨profile, hprofile, hdescribes⟩ := Pattern.exists_profile hembeds []
  rw [← Query.captures_eq hp, hcaptures] at hdescribes
  exact hdescribes.kind_of_typesAmong (List.all_eq_true.mp
    (List.all_eq_true.mp hl p (List.mem_of_getElem? hp)) profile hprofile)
    htype

end Language

/-- Built-in languages list the types of their queries among their scopes,
with the exceptions above. -/
theorem LanguagePack.builtIn_typesAmong {G : Grammars} {pack : LanguagePack}
    {l : Language}
    (hpack : pack ∈ builtIn) (hl : pack.register G = .ok l) :
    l.typesAmong (l.scopeRules.typeKinds ++ pack.unscopedTypes) = true := by
  refine of_all_builtIn (fun pack l =>
    l.typesAmong (l.scopeRules.typeKinds ++ pack.unscopedTypes))
    (fun _ _ _ => rfl) ?_ hpack hl
  decide +kernel

/-- The exceptions are exceptions. -/
theorem LanguagePack.not_mem_of_unscoped {G : Grammars} {pack : LanguagePack}
    {l : Language}
    (hpack : pack ∈ builtIn) (hl : pack.register G = .ok l) :
    ∀ kind ∈ pack.unscopedTypes, kind ∉ l.scopeRules.typeKinds := by
  have hcheck := of_all_builtIn (fun pack l => pack.unscopedTypes.all
    fun kind => !l.scopeRules.typeKinds.contains kind) (fun _ _ _ => rfl)
    (by decide +kernel) hpack hl
  intro kind hkind
  simpa using List.all_eq_true.mp hcheck kind hkind

-- ============================================================== searches

namespace Forest

variable {F : Forest} {kinds stops : List String} {n a t : NodeId}
  {between : List NodeId}

/-- A search passes by an ancestor and all before it where there is
nothing to read. -/
theorem nearest_ancestor_iff (h : F.Ancestor n between a)
    (hpasses : ∀ b ∈ between ++ [a],
      F.kind b ∉ kinds ∧ F.kind b ∉ stops ∧ F.missing b = false) :
    F.Nearest kinds stops n t ↔ F.Nearest kinds stops a t := by
  induction between generalizing n with
  | nil =>
      have hparent : F.parent n = some a := h
      refine nearest_parent_iff (fun p hp => ?_) hparent
      rw [← Option.some.inj (hparent.symm.trans hp)]
      exact hpasses a (List.mem_singleton_self a)
  | cons p between ih =>
      have hfirst : F.ParentPasses kinds stops n := by
        intro q hq
        rw [← Option.some.inj (h.1.symm.trans hq)]
        exact hpasses p (List.mem_cons_self ..)
      rw [nearest_parent_iff hfirst h.1]
      exact ih h.2 fun b hb => hpasses b (List.mem_cons_of_mem _ hb)

/-- An ancestor beyond the parent is also one of the node whose ancestors
are searched. -/
theorem exists_searchOrigin_ancestor (rules : ScopeRules)
    (h : F.Ancestor n between a) (hbetween : between ≠ []) :
    ∃ o between', F.searchOrigin rules n = some o
      ∧ F.Ancestor o between' a ∧ ∀ b ∈ between', b ∈ between := by
  unfold searchOrigin
  split
  next => exact ⟨n, between, rfl, h, fun _ hb => hb⟩
  next =>
    cases between with
    | nil => exact absurd rfl hbetween
    | cons p between =>
        exact ⟨p, between, h.1, h.2, fun _ hb => List.mem_cons_of_mem _ hb⟩

/-- The node that names a scope has the name of the scope. -/
theorem scopeName_of_namingNode {source : List UInt8}
    (hspells : F.Spells source) (hnaming : F.namingNode a = some n)
    (hn : n < F.size)
    (hname : (Utf8.decode (F.span source n)).isEmpty = false) :
    F.scopeName a = some (Utf8.decode (F.span source n)) := by
  have htext := hspells n hn
  have hne := String.isEmpty_eq_false_iff.mp hname
  simp [scopeName, hnaming, htext, hne]

end Forest

-- ============================================================= emissions

namespace Language

variable {l : Language} {F : Forest} {g : Grammar} {m : Match}
  {source : List UInt8} {options : ExtractOptions} {e : Emission}
  {p : ProcessedMatch} {d t : NodeId} {between : List NodeId}

/-- The type around a definition is the nearest one of where its search
begins. -/
theorem enclosingType_iff (hF : F.Acyclic)
    (h : l.process F m true = .ok p) (hd : p.anchors.nodes.1 = some d) :
    p.enclosingType = some t ↔ ∃ o, F.searchOrigin l.scopeRules d = some o
      ∧ F.Nearest l.scopeRules.typeKinds [] o t := by
  rw [process] at h
  split at h
  next => cases h
  next =>
    cases h
    have hd : (Anchors.select (some (l.tracks F)) m.captures).definition.bind
        (·.node) = some d := hd
    simp only [if_true, hd, Option.bind_some]
    exact hF.search_parent l.scopeRules (by
      funext b
      simp [Forest.kindIn])

/-- A definition has the kind under which its node was captured. -/
theorem kind_of_resolve {definition : Definition} {site : Site}
    {pattern : Int} {includeContent : Bool} {scopes : Scopes}
    (h : site.anchors.resolve F source pattern includeContent scopes
      = .ok definition) : definition.kind = site.kind := by
  rw [Site.anchors, Anchors.resolve] at h
  dsimp only at h
  split at h
  next => cases h
  next =>
    split at h
    next => cases h
    next =>
      split at h
      next =>
        cases h
        rfl
      next => cases h

/-- The node of an emitted type is of one of the kinds on which types are
captured. -/
theorem kind_of_emission {kinds : List String} (hl : l.wellMarked = true)
    (hamong : l.typesAmong kinds = true) (hF : F.IsTree)
    (he : e ∈ l.emissions F source options (l.query.run F g))
    (hd : e.processed.anchors.nodes.1 = some d)
    (htype : e.definition.kind ∈ DefinitionKind.typeNames) :
    F.kind d ∈ kinds := by
  obtain ⟨m, hm, he⟩ := List.mem_filterMap.mp he
  obtain ⟨x, site, kind, hx, hcaptures, rfl, hkind, htracked⟩ :=
    exists_site_of_mem_run hl hF hm
  have hne : site.kind ≠ nameCapture := hkind ▸ kind.name_ne_nameCapture
  have hanchors := (emission_of_site hne htracked he).1
  obtain ⟨hprocess, hresolve⟩ := emission?_eq_some.mp he
  rw [resolve_of_process hprocess, hanchors] at hresolve
  rw [kind_of_resolve hresolve] at htype
  have hsite : site.definition = d := by
    rw [hanchors, Site.nodes_anchors] at hd
    exact Option.some.inj hd
  rw [← hsite]
  exact kind_of_typesAmong hamong hx hcaptures htype

/-- If the name of an emission is the node that names its definition as a
scope, then the scope has the name of the emission. -/
theorem scopeName_of_namingNode_eq (hl : l.wellMarked = true)
    (hlocated : l.located = true) (hF : F.IsTree) (hspells : F.Spells source)
    (he : e ∈ l.emissions F source options (l.query.run F g))
    (hnaming : F.namingNode d = e.processed.anchors.nodes.2) :
    F.scopeName d = some e.definition.name := by
  obtain ⟨m, x, site, hx, hcaptures, -, hanchors, hname, hnonempty, -⟩ :=
    exists_site_of_mem_emissions hl hF he
  rw [hanchors, Site.nodes_anchors] at hnaming
  obtain ⟨between, hancestor⟩ :=
    exists_ancestor_of_captures hlocated hF hx hcaptures
  have hlt : site.name < F.size := by
    cases between with
    | nil => exact Forest.lt_size_of_parent hancestor
    | cons => exact Forest.lt_size_of_parent hancestor.1
  rw [hname] at hnonempty ⊢
  exact Forest.scopeName_of_namingNode hspells hnaming hlt hnonempty

/-- A definition lies inside the node `d` as a member: `d` is a proper
ancestor of its node, with something between the two that is of no kind
at which a search for a type ends. -/
def Member (l : Language) (F : Forest) (d : NodeId) (e : Emission) : Prop :=
  ∃ n between, e.processed.anchors.nodes.1 = some n
    ∧ F.Ancestor n between d ∧ between ≠ []
    ∧ ∀ b ∈ between, F.kind b ∉ l.scopeRules.typeKinds

/-- The search of a member gets to the node it lies in. -/
theorem Member.exists_origin (h : l.Member F d e) (hF : F.Acyclic)
    (hprocess : l.process F m true = .ok e.processed) :
    ∃ o between, F.Ancestor o between d
      ∧ (∀ b ∈ between, F.kind b ∉ l.scopeRules.typeKinds)
      ∧ ∀ t, e.processed.enclosingType = some t ↔
        F.Nearest l.scopeRules.typeKinds [] o t := by
  obtain ⟨n, between, hn, hancestor, hne, hbetween⟩ := h
  obtain ⟨o, between', ho, hancestor', hsub⟩ :=
    Forest.exists_searchOrigin_ancestor l.scopeRules hancestor hne
  refine ⟨o, between', hancestor', fun b hb => hbetween b (hsub b hb), ?_⟩
  intro t
  rw [enclosingType_iff hF hprocess hn, ho]
  simp

end Language

/-- For every built-in pack whose grammar can be loaded, every source and
every tree of it without missing nodes in which no node has two names: a
definition inside a class, a struct or an interface that is itself in the
outline has that type for its scope and is reported under its name. This is
so unless the type is of a kind that its pack does not list; then the
definition has what is around the type. In Kotlin the node that names the
type must be the one that the pattern took for its name. -/
theorem LanguagePack.types_are_scopes_of_members (G : Grammars)
    (pack : LanguagePack) (hpack : pack ∈ builtIn) (hloads : pack.Loads G) :
    ∃ l, pack.register G = .ok l ∧ ∀ (F : Forest) (source : List UInt8),
      F.IsTree → (∀ n, F.missing n = false) → F.Single "name" →
      F.Spells source →
      ∀ (r : Registry) (path : String) (includeContent : Bool)
        (parse : Grammar → List UInt8 → Option Forest),
        r.forPath path = .ok l → parse l.grammar source = some F →
        ∃ emissions : List Emission,
          emissions = l.emissions F source ⟨includeContent, true⟩
              (l.query.run F l.grammar)
          ∧ (r.outline { parse } path source ⟨includeContent, true⟩).result
              = .ok ⟨path, l.name, emissions.map (·.definition)⟩
          ∧ ∀ e₀ ∈ emissions, ∀ e₁ ∈ emissions, ∀ d,
            e₀.processed.anchors.nodes.1 = some d →
            e₀.definition.kind ∈ DefinitionKind.typeNames →
            l.Member F d e₁ →
            (F.kind d ∉ pack.unscopedTypes →
              e₁.processed.enclosingType = some d
              ∧ e₁.definition.scopes.type = F.scopeName d
              ∧ ((pack.name = "kotlin" →
                  F.namingNode d = e₀.processed.anchors.nodes.2) →
                e₁.definition.scopes.type = some e₀.definition.name))
            ∧ (F.kind d ∈ pack.unscopedTypes →
              ∀ t, e₁.processed.enclosingType = some t ↔
                F.Nearest l.scopeRules.typeKinds [] d t) := by
  obtain ⟨l, hregister, hl⟩ := builtIn_wellMarked hpack hloads
  have hlocated := builtIn_located hpack hregister
  have hamong := builtIn_typesAmong hpack hregister
  refine ⟨l, hregister, fun F source hF hpresent hsingle hspells => ?_⟩
  intro r path includeContent parse hforPath hparse
  refine ⟨_, rfl, Language.outline_emissions hforPath hparse, ?_⟩
  intro e₀ he₀ e₁ he₁ d hd htype hmember
  obtain ⟨m, x, site, -, -, hprocess, -, -, -, hscopes⟩ :=
    Language.exists_site_of_mem_emissions hl hF he₁
  obtain ⟨o, between, hancestor, hbetween, henclosing⟩ :=
    hmember.exists_origin hF.acyclic hprocess
  refine ⟨fun hscoped => ?_, fun hunscoped t => ?_⟩
  · have hkind : F.kind d ∈ l.scopeRules.typeKinds :=
      (List.mem_append.mp (Language.kind_of_emission hl hamong hF he₀ hd
        htype)).resolve_right hscoped
    have hfound : e₁.processed.enclosingType = some d :=
      (henclosing d).mpr ⟨between, hancestor, hkind, hpresent d,
        fun b hb => ⟨hbetween b hb, List.not_mem_nil, hpresent b⟩⟩
    have hreported : e₁.definition.scopes.type = F.scopeName d := by
      rw [hscopes, hfound]
      rfl
    refine ⟨hfound, hreported, fun hkotlin => ?_⟩
    rw [hreported]
    by_cases hname : pack.name = "kotlin"
    · exact Language.scopeName_of_namingNode_eq hl hlocated hF hspells he₀
        (hkotlin hname)
    · exact Language.scopeName_of_emission hl hlocated
        (builtIn_namesScopes hpack hname hregister) hF hsingle hspells he₀ hd
        (List.mem_append_left _ hkind)
  · rw [henclosing t]
    refine Forest.nearest_ancestor_iff hancestor fun b hb => ?_
    refine ⟨?_, List.not_mem_nil, hpresent b⟩
    rcases List.mem_append.mp hb with hb | hb
    · exact hbetween b hb
    · rw [List.mem_singleton.mp hb]
      exact not_mem_of_unscoped hpack hregister _ hunscoped

/-- The class `A` is the scope of the function in `class A: def f`, which
lies in its block. -/
theorem LanguagePack.types_are_scopes_of_members_method :
    ∃ l, python.register .installed = .ok l ∧ methodForest.IsTree
      ∧ (∀ n, methodForest.missing n = false)
      ∧ methodForest.Single "name" ∧ methodForest.Spells methodSource
      ∧ ∃ e₀ ∈ l.emissions methodForest methodSource ⟨false, true⟩
          (l.query.run methodForest l.grammar),
        ∃ e₁ ∈ l.emissions methodForest methodSource ⟨false, true⟩
          (l.query.run methodForest l.grammar),
        e₀.processed.anchors.nodes.1 = some 0
        ∧ e₀.definition.kind = "class" ∧ e₀.definition.name = "A"
        ∧ l.Member methodForest 0 e₁
        ∧ e₁.definition.scopes.type = some e₀.definition.name := by
  obtain ⟨l, hl, hscopes⟩ := types_are_scopes_of_members .installed
    python (by simp [builtIn]) rfl
  have hF : methodForest.IsTree := Forest.isTree_ofPreorder ..
  have hpresent : ∀ n, methodForest.missing n = false :=
    Forest.missing_ofPreorder (by decide)
  have hsingle : methodForest.Single "name" :=
    Forest.single_of_lt_size (by decide +kernel)
  have hspells : methodForest.Spells methodSource :=
    Forest.spells_ofPreorder _ _
  obtain ⟨emissions, rfl, -, hmembers⟩ := hscopes methodForest methodSource hF
    hpresent hsingle hspells { byExtension := [("py", l)] } "a.py" false
    (fun _ _ => some methodForest) rfl rfl
  obtain ⟨e₀, he₀, hd, hkind, hname⟩ : ∃ e₀ ∈ l.emissions methodForest
      methodSource ⟨false, true⟩ (l.query.run methodForest l.grammar),
      e₀.processed.anchors.nodes.1 = some 0 ∧ e₀.definition.kind = "class"
        ∧ e₀.definition.name = "A" := by
    have hclass : ⟨1, [⟨"class", some 0⟩, ⟨"name", some 1⟩]⟩
        ∈ l.query.run methodForest l.grammar := by
      cases hl
      rw [Query.mem_run_iff]
      decide +kernel
    cases hl
    exact ⟨_, List.mem_filterMap.mpr ⟨_, hclass, rfl⟩, rfl, rfl, rfl⟩
  obtain ⟨e₁, he₁, hmember⟩ : ∃ e₁ ∈ l.emissions methodForest
      methodSource ⟨false, true⟩ (l.query.run methodForest l.grammar),
      l.Member methodForest 0 e₁ := by
    have hmethod : ⟨0, [⟨"function", some 3⟩, ⟨"name", some 4⟩]⟩
        ∈ l.query.run methodForest l.grammar := by
      cases hl
      rw [Query.mem_run_iff]
      decide +kernel
    cases hl
    exact ⟨_, List.mem_filterMap.mpr ⟨_, hmethod, rfl⟩, 3, [2], rfl,
      ⟨rfl, rfl⟩, List.cons_ne_nil _ _, by decide⟩
  have hscoped := (hmembers e₀ he₀ e₁ he₁ 0 hd (by rw [hkind]; decide)
    hmember).1 List.not_mem_nil
  exact ⟨l, hl, hF, hpresent, hsingle, hspells, e₀, he₀, e₁, he₁, hd, hkind,
    hname, hmember, hscoped.2.2 fun hkotlin => absurd hkotlin (by decide)⟩

-- the interface of `@interface A` in Java is passed by
example :
    ((LanguagePack.java.register .installed).toOption.map fun l =>
      (l.process (.ofPreorder [] [
          ⟨0, "annotation_type_declaration", none, 0, 27, true, false⟩,
          ⟨1, "identifier", some "name", 11, 12, true, false⟩,
          ⟨1, "annotation_type_body", some "body", 13, 27, true, false⟩,
          ⟨2, "class_declaration", none, 15, 25, true, false⟩,
          ⟨3, "identifier", some "name", 21, 22, true, false⟩])
        ⟨0, [⟨"class", some 3⟩, ⟨"name", some 4⟩]⟩ true).toOption.map
          (·.enclosingType)) = some (some none) := by
  decide +kernel

-- of two identifiers in a class of Kotlin the first names the scope, but
-- each of them is the name of a definition
example :
    let F := Forest.ofPreorder [65, 66] [
      ⟨0, "class_declaration", none, 0, 2, true, false⟩,
      ⟨1, "identifier", none, 0, 1, true, false⟩,
      ⟨1, "identifier", none, 1, 2, true, false⟩]
    F.scopeName 0 = some "A"
      ∧ (LanguagePack.kotlin.register .installed).toOption.map (fun l =>
          (l.query.occurrences F l.grammar).map Occurrence.toMatch)
        = some [⟨0, [⟨"class", some 0⟩, ⟨"name", some 1⟩]⟩,
          ⟨0, [⟨"class", some 0⟩, ⟨"name", some 2⟩]⟩] := by
  decide +kernel

end Outline
