/-
Every match of a built-in query can be used.

A match of a language that is well marked and located has two captures:
a definition, under a kind and on a node that the language tracks, and a
name below it (`exists_site_of_mem_run`). These two are then the anchors
(`exists_process_site`), so nothing is missing among the captures, and
what can still be wrong with a match is wrong with the nodes: the
definition is missing or its range is ill formed, or the name has no text
(`Site.resolve_error`).
-/
import Outline.Proofs.Extraction.Completeness
import Outline.Proofs.Language.Located

namespace Outline

-- =============================================================== anchors

namespace Site

variable {site : Site} {F : Forest} {source : List UInt8} {pattern : Int}
  {includeContent : Bool} {scopes : Scopes}

/-- The captures of a site as anchors. -/
def anchors (site : Site) : Anchors :=
  ⟨some ⟨site.kind, some site.definition⟩,
    some ⟨nameCapture, some site.name⟩⟩

/-- Why a site has no definition. -/
theorem resolve_error {e : MatchFault}
    (h : site.anchors.resolve F source pattern includeContent scopes
      = .error e) :
    e = .missingNode pattern "definition" ∧ (F.missing site.definition = true
        ∨ (F.range site.definition).wellFormed = false)
    ∨ e = .noName pattern site.kind ∧ F.span source site.name = [] := by
  rw [anchors, Anchors.resolve] at h
  dsimp only at h
  rw [Utf8.isEmpty_decode] at h
  split at h
  next hmissing =>
    cases h
    exact .inl ⟨rfl, .inl hmissing⟩
  next =>
    split at h
    next hempty =>
      cases h
      exact .inr ⟨rfl, List.isEmpty_iff.mp hempty⟩
    next =>
      split at h
      next => cases h
      next hrange =>
        cases h
        exact .inl ⟨rfl, .inr (Bool.eq_false_iff.mpr hrange)⟩

/-- The definition of a site has the name the site points to, which is
not empty, and the scopes it was given. -/
theorem resolve_ok {d : Definition}
    (h : site.anchors.resolve F source pattern includeContent scopes
      = .ok d) :
    d.name = Utf8.decode (F.span source site.name) ∧ d.name.isEmpty = false
      ∧ d.scopes = scopes := by
  rw [anchors, Anchors.resolve] at h
  dsimp only at h
  split at h
  next => cases h
  next =>
    split at h
    next => cases h
    next hempty =>
      split at h
      next =>
        cases h
        exact ⟨rfl, Bool.eq_false_iff.mpr hempty, rfl⟩
      next => cases h

end Site

namespace Language

variable {l : Language} {F : Forest} {g : Grammar} {m : Match}
  {source : List UInt8} {options : ExtractOptions} {site : Site}

/-- A match that is about a tracked site is processed, and has the
captures of the site for its anchors. -/
theorem exists_process_site (hkind : site.kind ≠ nameCapture)
    (htracked : l.tracks F (some site.definition) = true) (pattern : Int)
    (resolveScopes : Bool) :
    ∃ p, l.process F ⟨pattern, site.captures⟩ resolveScopes = .ok p
      ∧ p.pattern = pattern ∧ p.anchors = site.anchors := by
  rw [Site.anchors, ← select_site hkind htracked]
  exact ⟨_, rfl, rfl, rfl⟩

/-- What a match resolves to, once it is processed. -/
theorem resolve_of_process {p : ProcessedMatch}
    (h : l.process F m options.resolveScopes = .ok p) :
    l.resolve F source options m
      = p.anchors.resolve F source p.pattern options.includeContent
        { type := p.enclosingType.bind F.scopeName
          function := p.enclosingFunction.bind F.scopeName } := by
  rw [resolve, h]

/-- What a match of a well marked language is about, and the embedding it
comes from. -/
theorem exists_site_of_mem_run (hl : l.wellMarked = true) (hF : F.IsTree)
    (hm : m ∈ l.query.run F g) :
    ∃ (x : Embedding) (site : Site) (kind : DefinitionKind),
      l.query.Embeds F g x ∧ l.query.captures x = site.captures
      ∧ m = ⟨x.pattern, site.captures⟩ ∧ site.kind = kind.name
      ∧ l.tracks F (some site.definition) = true := by
  obtain ⟨x, hx, rfl⟩ :=
    List.mem_map.mp ((Query.run_perm hF).mem_iff.mp hm)
  have hembeds := (Query.mem_embeddings hF).mp hx
  obtain ⟨kind, d, n, hcaptures, htracked⟩ := exists_captures hl hembeds
  refine ⟨x, ⟨kind.name, d, n⟩, kind, hembeds, hcaptures, ?_, rfl, htracked⟩
  rw [hcaptures]
  exact congrArg (Match.mk _)
    (@Site.grouped_captures ⟨kind.name, d, n⟩ kind.name_ne_nameCapture)

/-- In a located language the name is a proper descendant of the
definition. -/
theorem exists_ancestor_of_captures (hlocated : l.located = true)
    (hF : F.IsTree) {x : Embedding} (hx : l.query.Embeds F g x)
    (hcaptures : l.query.captures x = site.captures) :
    ∃ between, F.Ancestor site.name between site.definition := by
  obtain ⟨p, step, after, -, -, hafter, hleads⟩ :=
    exists_definition_route hlocated hF hx hcaptures
  obtain ⟨between, hbetween, -⟩ := hleads.exists_ancestor hafter
  exact ⟨between, hbetween⟩

theorem mem_faultsOf {found : List Match} {e : MatchFault}
    (h : e ∈ l.faultsOf F source options found) :
    ∃ m ∈ found, l.resolve F source options m = .error e := by
  obtain ⟨m, hm, hfault⟩ := List.mem_filterMap.mp h
  refine ⟨m, hm, ?_⟩
  split at hfault
  next => cases hfault
  next hresolve =>
    cases hfault
    exact hresolve

end Language

theorem LanguagePack.definitionKinds_of_register {G : Grammars}
    {pack : LanguagePack} {l : Language} (h : pack.register G = .ok l) :
    l.definitionKinds = pack.definitionKinds := by
  unfold register withGrammar at h
  split at h
  next => cases h
  next =>
    split at h
    next => cases h
    next =>
      cases h
      rfl

-- =============================================================== matches

/-- For every built-in pack whose grammar can be loaded and every tree, each
match of the query has two captures, a definition of a tracked kind and a
name below it, and these two become its anchors. The outline passes over a
match only because its definition is missing or has an ill formed range, or
because its name has no text. -/
theorem LanguagePack.matches_have_usable_anchors (G : Grammars)
    (pack : LanguagePack) (hpack : pack ∈ builtIn) (hloads : pack.Loads G) :
    ∃ l, pack.register G = .ok l ∧ ∀ F : Forest, F.IsTree →
      (∀ m ∈ l.query.run F l.grammar,
        ∃ (kind : DefinitionKind) (definition name : NodeId),
          m.captures
              = [⟨kind.name, some definition⟩, ⟨nameCapture, some name⟩]
          ∧ F.kind definition ∈ pack.definitionKinds.map (·.1)
          ∧ (∃ between, F.Ancestor name between definition)
          ∧ ∀ resolveScopes, ∃ p, l.process F m resolveScopes = .ok p
            ∧ p.anchors.definition = some ⟨kind.name, some definition⟩
            ∧ p.anchors.name = some ⟨nameCapture, some name⟩)
      ∧ ∀ (r : Registry) (path : String) (source : List UInt8)
          (options : ExtractOptions)
          (parse : Grammar → List UInt8 → Option Forest),
          r.forPath path = .ok l → parse l.grammar source = some F →
          ∃ (faults : List MatchFault) (definitions : Nat),
            (r.outline { parse } path source options).events
                = faults.map (skippedEvent path l.name)
                  ++ [parsedEvent path l.name definitions faults.length]
            ∧ ∀ e ∈ faults, ∃ m ∈ l.query.run F l.grammar,
              ∃ (kind : DefinitionKind) (definition name : NodeId),
                m.captures
                    = [⟨kind.name, some definition⟩, ⟨nameCapture, some name⟩]
                ∧ (e = .missingNode m.pattern "definition"
                      ∧ (F.missing definition = true
                        ∨ (F.range definition).wellFormed = false)
                  ∨ e = .noName m.pattern kind.name
                      ∧ F.span source name = []) := by
  obtain ⟨l, hregister, hl⟩ := builtIn_wellMarked hpack hloads
  have hlocated := builtIn_located hpack hregister
  refine ⟨l, hregister, fun F hF => ⟨fun m hm => ?_, ?_⟩⟩
  · obtain ⟨x, site, kind, hx, hcaptures, rfl, hkind, htracked⟩ :=
      Language.exists_site_of_mem_run hl hF hm
    refine ⟨kind, site.definition, site.name, ?_, ?_, ?_,
      fun resolveScopes => ?_⟩
    · rw [← hkind]
      rfl
    · rw [← definitionKinds_of_register hregister]
      simpa only [Language.tracks, List.contains_eq_mem, decide_eq_true_eq]
        using htracked
    · exact Language.exists_ancestor_of_captures hlocated hF hx hcaptures
    · obtain ⟨p, hprocess, -, hanchors⟩ := Language.exists_process_site
        (hkind ▸ kind.name_ne_nameCapture) htracked x.pattern resolveScopes
      refine ⟨p, hprocess, ?_, ?_⟩
      · rw [hanchors, ← hkind]
        rfl
      · rw [hanchors]
        rfl
  · intro r path source options parse hforPath hparse
    refine ⟨l.faultsOf F source options (l.query.run F l.grammar),
      (l.definitionsOf F source options (l.query.run F l.grammar)).length,
      ?_, ?_⟩
    · rw [Registry.outline, hforPath]
      dsimp only
      rw [Language.outline_of_parse hparse rfl]
    · intro e he
      obtain ⟨m, hm, hresolve⟩ := Language.mem_faultsOf he
      obtain ⟨x, site, kind, -, -, rfl, hkind, htracked⟩ :=
        Language.exists_site_of_mem_run hl hF hm
      obtain ⟨p, hprocess, hpattern, hanchors⟩ := Language.exists_process_site
        (hkind ▸ kind.name_ne_nameCapture) htracked x.pattern
        options.resolveScopes
      rw [Language.resolve_of_process hprocess, hpattern, hanchors] at hresolve
      refine ⟨_, hm, kind, site.definition, site.name, ?_, ?_⟩
      · rw [← hkind]
        rfl
      · rw [← hkind]
        exact Site.resolve_error hresolve

/-- The match of `func f` has its function and its name for anchors. -/
theorem LanguagePack.matches_have_usable_anchors_go :
    ∃ l, go.register .installed = .ok l ∧ goForest.IsTree
      ∧ ∃ m ∈ l.query.run goForest l.grammar, m.pattern = 0
        ∧ ∃ (kind : DefinitionKind) (definition name : NodeId),
          m.captures
              = [⟨kind.name, some definition⟩, ⟨nameCapture, some name⟩]
          ∧ goForest.kind definition ∈ go.definitionKinds.map (·.1)
          ∧ ∃ between, goForest.Ancestor name between definition := by
  obtain ⟨l, hl, htree⟩ :=
    matches_have_usable_anchors .installed go (List.mem_cons_self ..) rfl
  have hF : goForest.IsTree := Forest.isTree_ofPreorder ..
  obtain ⟨hmatches, -⟩ := htree goForest hF
  have hm : ⟨0, [⟨"function", some 0⟩, ⟨"name", some 2⟩]⟩
      ∈ l.query.run goForest l.grammar := by
    cases hl
    decide +kernel
  obtain ⟨kind, d, n, hcaptures, hkind, hbelow, -⟩ := hmatches _ hm
  exact ⟨l, hl, hF, _, hm, rfl, kind, d, n, hcaptures, hkind, hbelow⟩

end Outline
