/-
The name of a scope is the name of its definition.

A definition is named by the node its query captures, and a scope by the
child that its tree labels as the name. The two agree where the query
captures that very child. In all built-in languages but Kotlin, whose
patterns ask for no label, this is so for every kind of definition that is
also a scope (`Language.namesScopes`), which can be read off the routes
of the patterns: such a route ends with a labelled step right below the
definition.
-/
import Outline.Proofs.Extraction.Emission
import Outline.Proofs.Scope.Nearest

namespace Outline

-- ================================================================ routes

/-- Whether a step holds only at nodes of other kinds. -/
def Step.outside (kinds : List String) (step : Step) : Bool :=
  match step.test with
  | .kind k => !kinds.contains k
  | _ => false

theorem Step.not_mem_of_outside {F : Forest} {given : List Capture}
    {kinds : List String} {step : Step} {n : NodeId}
    (h : step.outside kinds = true) (hstep : step.Holds F given n) :
    F.kind n ∉ kinds := by
  have htest := hstep.test
  unfold outside at h
  split at h
  next k hk =>
    rw [hk] at htest
    rw [htest.2]
    simpa using h
  next => cases h

/-- Whether a route starts at a node of other kinds, or is one step down
to a node labelled as the name. -/
def Route.labelsName (kinds : List String) : Route → Bool
  | [definition, name] =>
    name.labels.contains "name" || definition.outside kinds
  | definition :: _ => definition.outside kinds
  | [] => false

/-- From a node of one of the kinds such a route leads to its child
labelled as the name. -/
theorem Route.Leads.name_child {F : Forest} {given : List Capture}
    {kinds : List String} {step : Step} {after : Route} {d n : NodeId}
    (h : Leads F given (step :: after) d n)
    (hlabels : labelsName kinds (step :: after) = true)
    (hkind : F.kind d ∈ kinds) :
    F.parent n = some d ∧ F.field n = some "name" := by
  have hinside : ¬ step.outside kinds = true := fun houtside =>
    Step.not_mem_of_outside houtside h.holds_head hkind
  unfold labelsName at hlabels
  split at hlabels
  next definition name heq =>
    obtain ⟨rfl, rfl⟩ := List.cons.inj heq
    have hname := (Bool.or_eq_true_iff.mp hlabels).resolve_right hinside
    obtain ⟨c, hparent, hleads⟩ := h.exists_child (List.cons_ne_nil _ _)
    rw [hleads.eq_of_singleton]
    exact ⟨hparent,
      hleads.holds_head.labels "name" (List.contains_iff_mem.mp hname)⟩
  next definition rest _ heq =>
    obtain ⟨rfl, -⟩ := List.cons.inj heq
    exact absurd hlabels hinside
  next heq => cases heq

namespace Language

variable {l : Language} {F : Forest} {g : Grammar} {m : Match}
  {source : List UInt8} {options : ExtractOptions} {site : Site}

/-- Whether definitions that may be scopes are named by the child that is
labelled as the name. -/
def namesScopes (l : Language) : Bool :=
  l.query.patterns.all fun p => p.definitionRoutes.all
    (Route.labelsName (l.scopeRules.typeKinds ++ l.scopeRules.functionKinds))

theorem name_child_of_namesScopes (hl : l.namesScopes = true)
    (hlocated : l.located = true) (hF : F.IsTree) {x : Embedding}
    (hx : l.query.Embeds F g x)
    (hcaptures : l.query.captures x = site.captures)
    (hkind : F.kind site.definition
      ∈ l.scopeRules.typeKinds ++ l.scopeRules.functionKinds) :
    F.parent site.name = some site.definition
      ∧ F.field site.name = some "name" := by
  obtain ⟨p, step, after, hp, hmem, -, hleads⟩ :=
    exists_definition_route hlocated hF hx hcaptures
  have hlabels := List.all_eq_true.mp (List.all_eq_true.mp hl p
    (List.mem_of_getElem? hp)) _ hmem
  exact hleads.name_child hlabels hkind

end Language

-- ================================================================ scopes

namespace Forest

variable {F : Forest} {source : List UInt8} {d n t : NodeId}

/-- The text of every node is what it spans. -/
def Spells (F : Forest) (source : List UInt8) : Prop :=
  ∀ n < F.size, (F.node n).text = some (F.span source n)

/-- Trees of pre-order lists do so. -/
theorem spells_ofPreorder (source : List UInt8)
    (entries : List PreorderEntry) :
    (ofPreorder source entries).Spells source := by
  intro n hn
  have hlt : n < entries.length := by
    simpa [size, ofPreorder] using hn
  simp [span, node, ofPreorder, hlt]

/-- A scope has the name that its child labelled as the name spans. -/
theorem scopeName_of_name_child (hF : F.IsTree) (hsingle : F.Single "name")
    (hspells : F.Spells source) (hparent : F.parent n = some d)
    (hfield : F.field n = some "name")
    (hname : (Utf8.decode (F.span source n)).isEmpty = false) :
    F.scopeName d = some (Utf8.decode (F.span source n)) := by
  have hchild : F.childByField d "name" = some n := by
    rw [hF.childByField_eq_some hparent hfield]
    intro c hc hcfield
    exact Nat.le_of_eq (hsingle.eq hF hparent hc hfield hcfield)
  have htext := hspells n (lt_size_of_parent hparent)
  have hne := String.isEmpty_eq_false_iff.mp hname
  simp [scopeName, namingNode, hchild, htext, hne]

/-- A search finds nodes it looks for. -/
theorem kind_of_search {kinds : List String} {start : Option NodeId}
    {startAtSelf : Bool} {isStop : Option (NodeId → Bool)}
    (h : F.search start (F.kindIn kinds) startAtSelf isStop = some t) :
    F.kind t ∈ kinds := by
  obtain ⟨-, -, hkind, -⟩ := firstBoundary_eq_some_iff.mp h
  simpa [kindIn] using hkind

end Forest

/-- The scopes of a processed match are of the kinds of the language. -/
theorem Language.kind_of_process {l : Language} {F : Forest} {m : Match}
    {resolveScopes : Bool} {p : ProcessedMatch}
    (h : l.process F m resolveScopes = .ok p) :
    (∀ t, p.enclosingType = some t → F.kind t ∈ l.scopeRules.typeKinds)
    ∧ ∀ f, p.enclosingFunction = some f →
      F.kind f ∈ l.scopeRules.functionKinds := by
  rw [process] at h
  split at h
  next => cases h
  next =>
    cases h
    refine ⟨fun t ht => ?_, fun f hf => ?_⟩
    · obtain ⟨around, -, ht⟩ := Option.bind_eq_some_iff.mp ht
      exact Forest.kind_of_search (Forest.search_of_enclosingType ht)
    · obtain ⟨around, -, hf⟩ := Option.bind_eq_some_iff.mp hf
      exact Forest.kind_of_search (Forest.search_of_enclosingFunction hf)

/-- If the definition of an emission is a scope, it has the name of the
emission. -/
theorem Language.scopeName_of_emission {l : Language} {F : Forest}
    {g : Grammar} {source : List UInt8} {options : ExtractOptions}
    {e : Emission} {d : NodeId} (hl : l.wellMarked = true)
    (hlocated : l.located = true) (hnames : l.namesScopes = true)
    (hF : F.IsTree) (hsingle : F.Single "name") (hspells : F.Spells source)
    (he : e ∈ l.emissions F source options (l.query.run F g))
    (hd : e.processed.anchors.nodes.1 = some d)
    (hkind : F.kind d
      ∈ l.scopeRules.typeKinds ++ l.scopeRules.functionKinds) :
    F.scopeName d = some e.definition.name := by
  obtain ⟨m, x, site, hx, hcaptures, -, hanchors, hname, hnonempty, -⟩ :=
    exists_site_of_mem_emissions hl hF he
  have hsite : site.definition = d := by
    rw [hanchors, Site.nodes_anchors] at hd
    exact Option.some.inj hd
  rw [← hsite] at hkind ⊢
  obtain ⟨hparent, hfield⟩ :=
    name_child_of_namesScopes hnames hlocated hF hx hcaptures hkind
  rw [hname] at hnonempty ⊢
  exact Forest.scopeName_of_name_child hF hsingle hspells hparent hfield
    hnonempty

/-- In all built-in languages but Kotlin scopes are named as
definitions. -/
theorem LanguagePack.builtIn_namesScopes {G : Grammars} {pack : LanguagePack}
    {l : Language}
    (hpack : pack ∈ builtIn) (hkotlin : pack.name ≠ "kotlin")
    (hl : pack.register G = .ok l) : l.namesScopes = true := by
  have hcheck := of_all_builtIn
    (fun pack l => pack.name == "kotlin" || l.namesScopes)
    (fun _ _ _ => rfl) (by decide +kernel) hpack hl
  exact (Bool.or_eq_true_iff.mp hcheck).resolve_left
    (fun hname => hkotlin (beq_iff_eq.mp hname))

/-- For every built-in pack but Kotlin whose grammar can be loaded, every
source and every tree of it in which no node has two names: if the scope
found around one definition of the outline is the node of another one, it
is reported under the name of that other one. -/
theorem LanguagePack.scope_names_are_definition_names (G : Grammars)
    (pack : LanguagePack) (hpack : pack ∈ builtIn) (hloads : pack.Loads G)
    (hkotlin : pack.name ≠ "kotlin") :
    ∃ l, pack.register G = .ok l ∧ ∀ (F : Forest) (source : List UInt8),
      F.IsTree → F.Single "name" → F.Spells source →
      ∀ (r : Registry) (path : String) (options : ExtractOptions)
        (parse : Grammar → List UInt8 → Option Forest),
        r.forPath path = .ok l → parse l.grammar source = some F →
        ∃ emissions : List Emission,
          emissions = l.emissions F source options (l.query.run F l.grammar)
          ∧ (r.outline { parse } path source options).result
              = .ok ⟨path, l.name, emissions.map (·.definition)⟩
          ∧ ∀ e₀ ∈ emissions, ∀ e₁ ∈ emissions, ∀ d,
            e₀.processed.anchors.nodes.1 = some d →
            (e₁.processed.enclosingType = some d →
              e₁.definition.scopes.type = some e₀.definition.name)
            ∧ (e₁.processed.enclosingFunction = some d →
              e₁.definition.scopes.function = some e₀.definition.name) := by
  obtain ⟨l, hregister, hl⟩ := builtIn_wellMarked hpack hloads
  have hlocated := builtIn_located hpack hregister
  have hnames := builtIn_namesScopes hpack hkotlin hregister
  refine ⟨l, hregister, fun F source hF hsingle hspells => ?_⟩
  intro r path options parse hforPath hparse
  refine ⟨_, rfl, Language.outline_emissions hforPath hparse, ?_⟩
  intro e₀ he₀ e₁ he₁ d hd
  obtain ⟨m, x, site, -, -, hprocess, -, -, -, hscopes⟩ :=
    Language.exists_site_of_mem_emissions hl hF he₁
  obtain ⟨htype, hfunction⟩ := Language.kind_of_process hprocess
  rw [hscopes]
  refine ⟨fun ht => ?_, fun hf => ?_⟩
  · rw [ht]
    exact Language.scopeName_of_emission hl hlocated hnames hF hsingle hspells
      he₀ hd (List.mem_append_left _ (htype d ht))
  · rw [hf]
    exact Language.scopeName_of_emission hl hlocated hnames hF hsingle hspells
      he₀ hd (List.mem_append_right _ (hfunction d hf))

/-- The matches of a query are its occurrences, in another order. -/
theorem Query.mem_run_iff {q : Query} {F : Forest} {g : Grammar} {m : Match} :
    m ∈ q.run F g ↔ m ∈ (q.occurrences F g).map Occurrence.toMatch :=
  ((List.mergeSort_perm _ _).map _).mem_iff

/-- The class around the function of `class A: def f` is reported under
the name of the class. -/
theorem LanguagePack.scope_names_are_definition_names_method :
    ∃ l, python.register .installed = .ok l ∧ methodForest.IsTree
      ∧ methodForest.Single "name" ∧ methodForest.Spells methodSource
      ∧ ∃ e₀ ∈ l.emissions methodForest methodSource ⟨false, true⟩
          (l.query.run methodForest l.grammar),
        ∃ e₁ ∈ l.emissions methodForest methodSource ⟨false, true⟩
          (l.query.run methodForest l.grammar),
        e₀.processed.anchors.nodes.1 = some 0
        ∧ e₁.processed.enclosingType = some 0
        ∧ e₁.definition.scopes.type = some e₀.definition.name := by
  obtain ⟨l, hl, hnames⟩ := scope_names_are_definition_names .installed
    python (by simp [builtIn]) rfl (by decide)
  have hF : methodForest.IsTree := Forest.isTree_ofPreorder ..
  have hsingle : methodForest.Single "name" :=
    Forest.single_of_lt_size (by decide +kernel)
  have hspells : methodForest.Spells methodSource :=
    Forest.spells_ofPreorder _ _
  obtain ⟨emissions, rfl, -, hagree⟩ := hnames methodForest methodSource hF
    hsingle hspells { byExtension := [("py", l)] } "a.py" ⟨false, true⟩
    (fun _ _ => some methodForest) rfl rfl
  have hclass : ⟨1, [⟨"class", some 0⟩, ⟨"name", some 1⟩]⟩
      ∈ l.query.run methodForest l.grammar := by
    cases hl
    rw [Query.mem_run_iff]
    decide +kernel
  have hmethod : ⟨0, [⟨"function", some 3⟩, ⟨"name", some 4⟩]⟩
      ∈ l.query.run methodForest l.grammar := by
    cases hl
    rw [Query.mem_run_iff]
    decide +kernel
  obtain ⟨e₀, he₀, hdefinition⟩ : ∃ e₀ ∈ l.emissions methodForest
      methodSource ⟨false, true⟩ (l.query.run methodForest l.grammar),
      e₀.processed.anchors.nodes.1 = some 0 := by
    cases hl
    exact ⟨_, List.mem_filterMap.mpr ⟨_, hclass, rfl⟩, rfl⟩
  obtain ⟨e₁, he₁, htype⟩ : ∃ e₁ ∈ l.emissions methodForest
      methodSource ⟨false, true⟩ (l.query.run methodForest l.grammar),
      e₁.processed.enclosingType = some 0 := by
    cases hl
    exact ⟨_, List.mem_filterMap.mpr ⟨_, hmethod, rfl⟩, rfl⟩
  exact ⟨l, hl, hF, hsingle, hspells, e₀, he₀, e₁, he₁, hdefinition, htype,
    (hagree e₀ he₀ e₁ he₁ 0 hdefinition).1 htype⟩

end Outline
