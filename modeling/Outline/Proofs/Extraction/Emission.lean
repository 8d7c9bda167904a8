/-
No definition is reported twice.

The definitions of an outline do not say which nodes they were made of,
so they are listed here together with the processed matches they come
from (`Language.emissions`). In a language that is well marked, located
and unambiguous, matches differ in the definition node or in the name
node (`nodup_run_nodes`), because these two fix the embedding; and so do
emissions, which are made of some of the matches, each of one
(`nodup_emissions_nodes`).
-/
import Mathlib.Data.List.Pairwise
import Outline.Proofs.Extraction.Anchoring

namespace Outline

/-- The nodes of the two anchors. -/
def Anchors.nodes (a : Anchors) : Option NodeId × Option NodeId :=
  (a.definition.bind (·.node), a.name.bind (·.node))

@[simp] theorem Site.nodes_anchors (site : Site) :
    site.anchors.nodes = (some site.definition, some site.name) := rfl

/-- Without a table of tracked kinds the captures of a site are chosen as
well. -/
theorem Site.select_none {site : Site} (h : site.kind ≠ nameCapture) :
    Anchors.select none site.captures = site.anchors := by
  simp [Anchors.select, captures, anchors, Capture.isName, h]

/-- A definition of an outline, and the match it was made of. -/
structure Emission where
  processed : ProcessedMatch
  definition : Definition
deriving DecidableEq, Repr, Inhabited

namespace Language

variable {l : Language} {F : Forest} {g : Grammar} {source : List UInt8}
  {options : ExtractOptions} {m : Match} {found : List Match}
  {single : List String} {e : Emission}

-- ============================================================= emissions

/-- What a match becomes, with the match. -/
def emission? (l : Language) (F : Forest) (source : List UInt8)
    (options : ExtractOptions) (m : Match) : Option Emission :=
  match l.process F m options.resolveScopes, l.resolve F source options m with
  | .ok p, .ok d => some ⟨p, d⟩
  | _, _ => none

/-- The definitions of a stream of matches, each with its match. -/
def emissions (l : Language) (F : Forest) (source : List UInt8)
    (options : ExtractOptions) (found : List Match) : List Emission :=
  found.filterMap (l.emission? F source options)

theorem emission?_eq_some :
    l.emission? F source options m = some e ↔
      l.process F m options.resolveScopes = .ok e.processed
      ∧ l.resolve F source options m = .ok e.definition := by
  unfold emission?
  split
  next p d hprocess hresolve =>
    rw [hprocess, hresolve]
    constructor
    · rintro ⟨⟩
      exact ⟨rfl, rfl⟩
    · rintro ⟨hp, hd⟩
      cases hp
      cases hd
      rfl
  next hother =>
    constructor
    · nofun
    · rintro ⟨hprocess, hresolve⟩
      exact (hother _ _ hprocess hresolve).elim

/-- The emissions of a stream have its definitions. -/
theorem map_definition_emissions (found : List Match) :
    (l.emissions F source options found).map (·.definition)
      = l.definitionsOf F source options found := by
  rw [emissions, definitionsOf, List.map_filterMap]
  refine List.filterMap_congr fun m _ => ?_
  cases hresolve : l.resolve F source options m with
  | error e =>
      have hnone : l.emission? F source options m = none := by
        rw [Option.eq_none_iff_forall_ne_some]
        intro e he
        rw [emission?_eq_some, hresolve] at he
        cases he.2
      rw [hnone]
      rfl
  | ok d =>
      -- a match that resolves was processed
      cases hprocess : l.process F m options.resolveScopes with
      | error e =>
          rw [resolve, hprocess] at hresolve
          cases hresolve
      | ok p =>
          have hsome : l.emission? F source options m = some ⟨p, d⟩ :=
            emission?_eq_some.mpr ⟨hprocess, hresolve⟩
          rw [hsome]
          rfl

/-- The emissions of a file are those of its matches. -/
theorem outline_emissions {r : Registry} {path : String}
    {parse : Grammar → List UInt8 → Option Forest}
    (hl : r.forPath path = .ok l) (hF : parse l.grammar source = some F) :
    (r.outline { parse } path source options).result
      = .ok ⟨path, l.name, (l.emissions F source options
          (l.query.run F l.grammar)).map (·.definition)⟩ := by
  rw [Registry.outline, hl, map_definition_emissions]
  dsimp only
  rw [outline_of_parse hF rfl]

/-- What an emission of a match is about: the site of the match. -/
theorem emission_of_site {pattern : Int} {site : Site}
    (hkind : site.kind ≠ nameCapture)
    (htracked : l.tracks F (some site.definition) = true)
    (he : l.emission? F source options ⟨pattern, site.captures⟩ = some e) :
    e.processed.anchors = site.anchors
      ∧ e.definition.name = Utf8.decode (F.span source site.name)
      ∧ e.definition.name.isEmpty = false
      ∧ e.definition.scopes =
        { type := e.processed.enclosingType.bind F.scopeName
          function := e.processed.enclosingFunction.bind F.scopeName } := by
  obtain ⟨hprocess, hresolve⟩ := emission?_eq_some.mp he
  obtain ⟨p, hp, -, hanchors⟩ :=
    exists_process_site hkind htracked pattern options.resolveScopes
  cases hp.symm.trans hprocess
  rw [resolve_of_process hprocess, hanchors] at hresolve
  exact ⟨hanchors, Site.resolve_ok hresolve⟩

/-- An emission of the matches of a tree is about an embedding. -/
theorem exists_site_of_mem_emissions (hl : l.wellMarked = true)
    (hF : F.IsTree) (he : e ∈ l.emissions F source options (l.query.run F g)) :
    ∃ (m : Match) (x : Embedding) (site : Site),
      l.query.Embeds F g x ∧ l.query.captures x = site.captures
      ∧ l.process F m options.resolveScopes = .ok e.processed
      ∧ e.processed.anchors = site.anchors
      ∧ e.definition.name = Utf8.decode (F.span source site.name)
      ∧ e.definition.name.isEmpty = false
      ∧ e.definition.scopes =
        { type := e.processed.enclosingType.bind F.scopeName
          function := e.processed.enclosingFunction.bind F.scopeName } := by
  obtain ⟨m, hm, he⟩ := List.mem_filterMap.mp he
  obtain ⟨x, site, kind, hx, hcaptures, rfl, hkind, htracked⟩ :=
    exists_site_of_mem_run hl hF hm
  exact ⟨_, x, site, hx, hcaptures, (emission?_eq_some.mp he).1,
    emission_of_site (hkind ▸ kind.name_ne_nameCapture) htracked he⟩

-- ============================================================ no repeats

/-- No two matches of an unambiguous language have the same definition
node and the same name node. -/
theorem nodup_run_nodes (hl : l.wellMarked = true)
    (hlocated : l.located = true) (hunambiguous : l.unambiguous single = true)
    (hF : F.IsTree) (hsingle : ∀ label ∈ single, F.Single label) :
    ((l.query.run F g).map fun m =>
      (Anchors.select none m.captures).nodes).Nodup := by
  rw [((Query.run_perm hF).map _).nodup_iff, List.map_map]
  refine List.Nodup.map_on ?_ (Query.nodup_embeddings hF)
  intro x hx y hy hnodes
  have hx := (Query.mem_embeddings hF).mp hx
  have hy := (Query.mem_embeddings hF).mp hy
  obtain ⟨⟨kind, d, n⟩, hcaptures, hkind, -⟩ := exists_site hl hx
  obtain ⟨⟨kind', d', n'⟩, hcaptures', hkind', -⟩ := exists_site hl hy
  simp only [Function.comp, hcaptures, hcaptures',
    Site.grouped_captures hkind, Site.grouped_captures hkind',
    Site.select_none hkind, Site.select_none hkind', Site.nodes_anchors,
    Prod.mk.injEq, Option.some.injEq] at hnodes
  obtain ⟨rfl, rfl⟩ := hnodes
  exact eq_of_unambiguous hlocated hunambiguous hF hsingle hx hy hcaptures
    hcaptures' hkind hkind'

/-- No two emissions do. -/
theorem nodup_emissions_nodes (hl : l.wellMarked = true)
    (hlocated : l.located = true) (hunambiguous : l.unambiguous single = true)
    (hF : F.IsTree) (hsingle : ∀ label ∈ single, F.Single label) :
    ((l.emissions F source options (l.query.run F g)).map
      (·.processed.anchors.nodes)).Nodup := by
  have hnodes : ∀ m ∈ l.query.run F g, ∀ e,
      l.emission? F source options m = some e →
      e.processed.anchors.nodes
        = (Anchors.select none m.captures).nodes := by
    intro m hm e he
    obtain ⟨x, site, kind, -, -, rfl, hkind, htracked⟩ :=
      exists_site_of_mem_run hl hF hm
    have hne : site.kind ≠ nameCapture := hkind ▸ kind.name_ne_nameCapture
    rw [(emission_of_site hne htracked he).1, Site.select_none hne]
  have hrun := List.pairwise_map.mp (nodup_run_nodes (g := g) hl hlocated
    hunambiguous hF hsingle)
  rw [List.Nodup, List.pairwise_map, emissions, List.pairwise_filterMap]
  refine hrun.imp_of_mem ?_
  intro m m' hm hm' hne e he e' he'
  rw [hnodes m hm e he, hnodes m' hm' e' he']
  exact hne

end Language

/-- For every built-in pack whose grammar can be loaded and every tree in
which no node has two types or two bodies, no two matches of the query have
both the same definition node and the same name node, whatever their kinds;
so the outline has no definition of one such pair twice. -/
theorem LanguagePack.definitions_reported_once (G : Grammars)
    (pack : LanguagePack) (hpack : pack ∈ builtIn) (hloads : pack.Loads G) :
    ∃ l, pack.register G = .ok l ∧ ∀ F : Forest, F.IsTree →
      F.Single "type" → F.Single "body" →
      ((l.query.run F l.grammar).map fun m =>
        (Anchors.select none m.captures).nodes).Nodup
      ∧ ∀ (r : Registry) (path : String) (source : List UInt8)
          (options : ExtractOptions)
          (parse : Grammar → List UInt8 → Option Forest),
          r.forPath path = .ok l → parse l.grammar source = some F →
          (r.outline { parse } path source options).result
              = .ok ⟨path, l.name, (l.emissions F source options
                  (l.query.run F l.grammar)).map (·.definition)⟩
          ∧ ((l.emissions F source options (l.query.run F l.grammar)).map
              (·.processed.anchors.nodes)).Nodup := by
  obtain ⟨l, hregister, hl⟩ := builtIn_wellMarked hpack hloads
  have hlocated := builtIn_located hpack hregister
  have hunambiguous := builtIn_unambiguous hpack hregister
  refine ⟨l, hregister, fun F hF htype hbody => ?_⟩
  have hsingle : ∀ label ∈ ["type", "body"], F.Single label := by
    intro label hlabel
    rcases List.mem_cons.mp hlabel with rfl | hlabel
    · exact htype
    · rw [List.mem_singleton.mp hlabel]
      exact hbody
  refine ⟨Language.nodup_run_nodes hl hlocated hunambiguous hF hsingle, ?_⟩
  intro r path source options parse hforPath hparse
  exact ⟨Language.outline_emissions hforPath hparse,
    Language.nodup_emissions_nodes hl hlocated hunambiguous hF hsingle⟩

/-- The tree of `type T struct` in Go. -/
def structForest : Forest :=
  .ofPreorder [] [
    ⟨0, "type_declaration", none, 0, 13, true, false⟩,
    ⟨1, "type", none, 0, 4, false, false⟩,
    ⟨1, "type_spec", none, 5, 13, true, false⟩,
    ⟨2, "type_identifier", some "name", 5, 6, true, false⟩,
    ⟨2, "struct_type", some "type", 7, 13, true, false⟩]

/-- Three patterns are about type specifications, and one of them finds
the struct. -/
theorem LanguagePack.definitions_reported_once_struct :
    ∃ l, go.register .installed = .ok l ∧ structForest.IsTree
      ∧ structForest.Single "type" ∧ structForest.Single "body"
      ∧ ((l.query.run structForest l.grammar).map fun m =>
        (Anchors.select none m.captures).nodes).count (some 2, some 3) = 1 := by
  obtain ⟨l, hl, htree⟩ :=
    definitions_reported_once .installed go (List.mem_cons_self ..) rfl
  have hF : structForest.IsTree := Forest.isTree_ofPreorder ..
  have htype : structForest.Single "type" :=
    Forest.single_of_lt_size (by decide +kernel)
  have hbody : structForest.Single "body" :=
    Forest.single_of_lt_size (by decide +kernel)
  obtain ⟨hnodup, -⟩ := htree structForest hF htype hbody
  have hmem : (some 2, some 3) ∈ (l.query.run structForest l.grammar).map
      fun m => (Anchors.select none m.captures).nodes := by
    cases hl
    decide +kernel
  exact ⟨l, hl, hF, htype, hbody, List.count_eq_one_of_mem hnodup hmem⟩

end Outline
