/-
The outline has every definition that the tree has.

What a match is about is a site: a kind, the node of a definition and
the node of its name. For a language that is well marked, matches and
embeddings are about the same sites, as often (`run_sites`), and whether
a site becomes a definition depends on three things only: its definition
is not missing, has a well formed range, and its name spans at least one
byte (`resolve_site`). So nothing is lost between the tree and the
outline, and nothing is made up.
-/
import Outline.Proofs.Extraction.Skipping
import Outline.Proofs.Language.Marked
import Outline.Proofs.Text.Utf8
import Outline.Proofs.Tree.Preorder

namespace Outline

open scoped List

-- ================================================================= sites

/-- What a match is about. -/
structure Site where
  kind : String
  definition : NodeId
  name : NodeId
deriving DecidableEq, Repr, Inhabited

namespace Site

/-- The site of captures: the first one that is not a name tells the kind
and the definition, the first name is the name. -/
def of? (captures : List Capture) : Option Site := do
  let definition ← captures.find? (!·.isName)
  let name ← captures.find? (·.isName)
  return ⟨definition.name, ← definition.node, ← name.node⟩

/-- Whether a definition can be made of a site. -/
def usable (F : Forest) (source : List UInt8) (site : Site) : Bool :=
  !F.missing site.definition && (F.range site.definition).wellFormed
    && !(F.span source site.name).isEmpty

/-- Kind, name and range of the definition of a site. -/
def summary (F : Forest) (source : List UInt8) (site : Site) :
    String × String × SourceRange :=
  (site.kind, Utf8.decode (F.span source site.name), F.range site.definition)

end Site

/-- Kind, name and range of a definition. -/
def Definition.summary (d : Definition) : String × String × SourceRange :=
  (d.kind, d.name, d.range)

/-- The captures of a definition and its name. -/
def Site.captures (site : Site) : List Capture :=
  [⟨site.kind, some site.definition⟩, ⟨nameCapture, some site.name⟩]

theorem DefinitionKind.name_ne_nameCapture (kind : DefinitionKind) :
    kind.name ≠ nameCapture := by
  cases kind <;> decide

namespace Site

variable {site : Site}

theorem of?_captures (h : site.kind ≠ nameCapture) :
    of? site.captures = some site := by
  simp [of?, captures, Capture.isName, h]

/-- Two captures under different names are grouped already. -/
theorem grouped_captures (h : site.kind ≠ nameCapture) :
    Capture.grouped site.captures = site.captures := by
  simp [Capture.grouped, captures, List.eraseDups_cons, h, Ne.symm h]

end Site

namespace Language

variable {l : Language} {F : Forest} {g : Grammar} {source : List UInt8}
  {options : ExtractOptions} {site : Site}

/-- The two captures of a tracked site are chosen. -/
theorem select_site (hkind : site.kind ≠ nameCapture)
    (htracked : l.tracks F (some site.definition) = true) :
    Anchors.select (some (l.tracks F)) site.captures
      = ⟨some ⟨site.kind, some site.definition⟩,
        some ⟨nameCapture, some site.name⟩⟩ := by
  simp [Anchors.select, Site.captures, Capture.isName, hkind, htracked]

/-- A match that is about a tracked site becomes a definition if and only
if the site is usable. -/
theorem resolve_site (hkind : site.kind ≠ nameCapture)
    (htracked : l.tracks F (some site.definition) = true) (pattern : Int) :
    (l.definitionsOf F source options
        [⟨pattern, site.captures⟩]).map Definition.summary
      = if site.usable F source then [site.summary F source] else [] := by
  have hresolve : ∃ scopes, l.resolve F source options
      ⟨pattern, site.captures⟩ = Anchors.resolve F source pattern
        ⟨some ⟨site.kind, some site.definition⟩,
          some ⟨nameCapture, some site.name⟩⟩
        options.includeContent scopes := by
    rw [← select_site hkind htracked]
    exact ⟨_, rfl⟩
  obtain ⟨scopes, hresolve⟩ := hresolve
  rw [definitionsOf, List.filterMap_cons, hresolve, Anchors.resolve]
  dsimp only
  rw [Utf8.isEmpty_decode]
  unfold Site.usable
  cases F.missing site.definition with
  | true => rfl
  | false =>
      cases (F.span source site.name).isEmpty with
      | true => simp
      | false =>
          cases (F.range site.definition).wellFormed with
          | true => rfl
          | false => rfl

-- ============================================================ embeddings

/-- What an embedding of a well marked query is about. -/
theorem exists_site (hl : l.wellMarked = true) {x : Embedding}
    (hx : l.query.Embeds F g x) :
    ∃ site : Site, l.query.captures x = site.captures
      ∧ site.kind ≠ nameCapture
      ∧ l.tracks F (some site.definition) = true := by
  obtain ⟨kind, d, n, hcaptures, htracked⟩ := exists_captures hl hx
  exact ⟨⟨kind.name, d, n⟩, hcaptures, kind.name_ne_nameCapture, htracked⟩

/-- Matches and embeddings are about the same sites, as often. -/
theorem run_sites (hl : l.wellMarked = true) (hF : F.IsTree) :
    (l.query.run F g).map (fun m => Site.of? m.captures)
      ~ (l.query.embeddings F g).map fun x =>
          Site.of? (l.query.captures x) := by
  refine ((Query.run_perm hF).map _).trans ?_
  rw [List.map_map]
  refine .of_eq (List.map_congr_left fun x hx => ?_)
  obtain ⟨site, hcaptures, hkind, -⟩ :=
    exists_site hl ((Query.mem_embeddings hF).mp hx)
  simp only [Function.comp, hcaptures, Site.grouped_captures hkind]

/-- The matches of embeddings become the definitions of their usable
sites. -/
theorem definitionsOf_embeddings (hl : l.wellMarked = true)
    {xs : List Embedding} (hxs : ∀ x ∈ xs, l.query.Embeds F g x) :
    (l.definitionsOf F source options (xs.map fun x =>
        ⟨x.pattern, Capture.grouped (l.query.captures x)⟩)).map
          Definition.summary
      = ((xs.filterMap fun x => Site.of? (l.query.captures x)).filter
          (Site.usable F source)).map (Site.summary F source) := by
  induction xs with
  | nil => rfl
  | cons x xs ih =>
      obtain ⟨site, hcaptures, hkind, htracked⟩ :=
        exists_site hl (hxs x (List.mem_cons_self ..))
      have hrest := ih fun y hy => hxs y (List.mem_cons_of_mem _ hy)
      rw [List.map_cons, ← List.singleton_append, definitionsOf_append,
        List.map_append, hrest, hcaptures, Site.grouped_captures hkind,
        resolve_site hkind htracked, List.filterMap_cons, hcaptures,
        Site.of?_captures hkind, List.filter_cons]
      cases site.usable F source <;> rfl

end Language

-- =============================================================== outlines

/-- For every built-in pack whose grammar can be loaded and every tree, the
matches of the query are about the sites of all embeddings of its patterns,
as often as there are embeddings, and the outline has one definition for
each that is usable and no other. -/
theorem LanguagePack.outline_sound_and_complete (G : Grammars)
    (pack : LanguagePack) (hpack : pack ∈ builtIn) (hloads : pack.Loads G) :
    ∃ l, pack.register G = .ok l ∧ ∀ F : Forest, F.IsTree →
      ∃ all : List Embedding, all.Nodup
        ∧ (∀ x, x ∈ all ↔ l.query.Embeds F l.grammar x)
        ∧ (∀ x ∈ all, (Site.of? (l.query.captures x)).isSome = true)
        ∧ (l.query.run F l.grammar).map (fun m => Site.of? m.captures)
            ~ all.map (fun x => Site.of? (l.query.captures x))
        ∧ ∀ (r : Registry) (path : String) (source : List UInt8)
            (options : ExtractOptions)
            (parse : Grammar → List UInt8 → Option Forest),
            r.forPath path = .ok l → parse l.grammar source = some F →
            ∃ definitions,
              (r.outline { parse } path source options).result
                  = .ok ⟨path, l.name, definitions⟩
              ∧ definitions.map Definition.summary
                  ~ ((all.filterMap fun x =>
                      Site.of? (l.query.captures x)).filter
                        (Site.usable F source)).map
                          (Site.summary F source) := by
  obtain ⟨l, hregister, hl⟩ := builtIn_wellMarked hpack hloads
  refine ⟨l, hregister, fun F hF => ⟨l.query.embeddings F l.grammar,
    Query.nodup_embeddings hF, fun x => Query.mem_embeddings hF, ?_,
    Language.run_sites hl hF, ?_⟩⟩
  · intro x hx
    obtain ⟨site, hcaptures, hkind, -⟩ :=
      Language.exists_site hl ((Query.mem_embeddings hF).mp hx)
    rw [hcaptures, Site.of?_captures hkind]
    rfl
  · intro r path source options parse hforPath hparse
    refine ⟨l.definitionsOf F source options (l.query.run F l.grammar), ?_, ?_⟩
    · rw [Registry.outline, hforPath]
      dsimp only
      rw [Language.outline_of_parse hparse rfl]
    · rw [← Language.definitionsOf_embeddings hl
        (fun x hx => (Query.mem_embeddings hF).mp hx)]
      exact ((Query.run_perm hF).filterMap _).map _

/-- `func f` in Go. -/
def goSource : List UInt8 := [102, 117, 110, 99, 32, 102]

/-- The tree of `func f`. -/
def goForest : Forest :=
  .ofPreorder goSource [
    ⟨0, "function_declaration", none, 0, 6, true, false⟩,
    ⟨1, "func", none, 0, 4, false, false⟩,
    ⟨1, "identifier", some "name", 5, 6, true, false⟩]

/-- The function of `func f` is in its outline. -/
theorem LanguagePack.outline_sound_and_complete_go :
    ∃ l, go.register .installed = .ok l ∧ ∃ definitions,
      (Registry.outline { byExtension := [("go", l)] }
        { parse := fun _ _ => some goForest } "a.go" goSource {}).result
          = .ok ⟨"a.go", l.name, definitions⟩
      ∧ ("function", "f", ⟨⟨0, 0⟩, ⟨0, 6⟩⟩)
          ∈ definitions.map Definition.summary := by
  obtain ⟨l, hl, htree⟩ :=
    outline_sound_and_complete .installed go (List.mem_cons_self ..) rfl
  have hF : goForest.IsTree := Forest.isTree_ofPreorder ..
  obtain ⟨all, -, hall, -, -, houtline⟩ := htree goForest hF
  obtain ⟨definitions, hresult, hperm⟩ := houtline
    { byExtension := [("go", l)] } "a.go" goSource {} (fun _ _ => some goForest)
    rfl rfl
  refine ⟨l, hl, definitions, hresult, hperm.mem_iff.mpr ?_⟩
  cases hl
  have hmem : (⟨0, .node 0 [.node 2 []]⟩ : Embedding) ∈ all := by
    refine (hall _).mpr ⟨_, rfl, ?_⟩
    exact ((Pattern.mem_sendings hF (n := 0) (by decide)).mp
      (List.Mem.head _)).1
  refine List.mem_map.mpr ⟨⟨"function", 0, 2⟩, ?_, rfl⟩
  exact List.mem_filter.mpr ⟨List.mem_filterMap.mpr ⟨_, hmem, rfl⟩, rfl⟩

end Outline
