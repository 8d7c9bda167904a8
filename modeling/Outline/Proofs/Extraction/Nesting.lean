/-
Spans inside spans.

Three nodes stand behind a definition of an outline: the query chooses the
definition and its name, and the search for scopes chooses what is around
it. All three lie on one way up, the name below the definition and the
scopes above it. Where every node spans a part of what its parent spans,
so does every node below another one (`Ancestor.inside`): the bytes of the
name are one block of the content (`slice_infix`), and the bytes of the
definition lie in those of its scopes.
-/
import Outline.Proofs.Extraction.Options
import Outline.Proofs.Extraction.ScopeNames
import Outline.Proofs.Scope.Search

namespace Outline

-- ================================================================= spans

/-- A slice between offsets that are not negative drops what is before the
first and takes what is before the last. -/
theorem slice_of_nonneg {source : List UInt8} {first last : Int}
    (hfirst : 0 ≤ first) (hlast : 0 ≤ last) :
    slice source first last = (source.take last.toNat).drop first.toNat := by
  unfold slice
  simp only [if_neg (Int.not_lt.mpr hfirst), if_neg (Int.not_lt.mpr hlast)]
  rw [← List.take_eq_take_min]
  rcases Nat.le_total first.toNat source.length with hle | hle
  · rw [Nat.min_eq_left hle]
  · -- both drop everything
    rw [Nat.min_eq_right hle, List.drop_eq_nil_of_le, List.drop_eq_nil_of_le]
    · exact Nat.le_trans (List.length_take_le' ..) hle
    · exact List.length_take_le' ..

/-- A slice is one block of every slice around it. -/
theorem slice_infix {source : List UInt8} {first first' last last' : Int}
    (hfirst : 0 ≤ first) (hfirst' : first ≤ first') (hlast' : 0 ≤ last')
    (hlast : last' ≤ last) :
    slice source first' last' <:+: slice source first last := by
  rw [slice_of_nonneg (Int.le_trans hfirst hfirst') hlast',
    slice_of_nonneg hfirst (Int.le_trans hlast' hlast)]
  have hcut : source.take last'.toNat
      = (source.take last.toNat).take last'.toNat := by
    rw [List.take_take, Nat.min_eq_left (Int.toNat_le_toNat hlast)]
  have hskip : first'.toNat = first.toNat + (first'.toNat - first.toNat) := by
    have := Int.toNat_le_toNat hfirst'
    omega
  -- one end is cut off after the other
  rw [hcut, hskip, ← List.drop_drop]
  refine (List.drop_suffix _ _).isInfix.trans ?_
  rw [List.drop_take]
  exact (List.take_prefix _ _).isInfix

namespace Forest

variable {F : Forest} {source : List UInt8} {n a : NodeId}
  {between : List NodeId}

/-- `n` spans a part of what `a` spans. -/
def Inside (F : Forest) (n a : NodeId) : Prop :=
  (F.node a).startByte ≤ (F.node n).startByte
    ∧ (F.node n).endByte ≤ (F.node a).endByte

instance (F : Forest) (n a : NodeId) : Decidable (F.Inside n a) :=
  inferInstanceAs (Decidable (_ ∧ _))

/-- No node begins or ends before the source, and each spans a part of what
its parent spans. An end beyond the source is not ruled out: a span is cut
off there. -/
structure Nested (F : Forest) : Prop where
  nonneg : ∀ n < F.size, 0 ≤ (F.node n).startByte ∧ 0 ≤ (F.node n).endByte
  inside : ∀ n < F.size, ∀ p ∈ F.parent n, F.Inside n p

theorem Inside.trans {b : NodeId} (h : F.Inside n a) (h' : F.Inside a b) :
    F.Inside n b :=
  ⟨Int.le_trans h'.1 h.1, Int.le_trans h.2 h'.2⟩

/-- A node spans a part of what each of its ancestors spans. -/
theorem Ancestor.inside (h : F.Ancestor n between a) (hF : F.Nested) :
    F.Inside n a := by
  induction between generalizing n with
  | nil => exact hF.inside n (lt_size_of_parent h) a h
  | cons p between ih =>
      exact (hF.inside n (lt_size_of_parent h.1) p h.1).trans (ih h.2)

/-- Ancestors are in the forest with their descendants. -/
theorem IsTree.lt_size_of_ancestor (hF : F.IsTree)
    (h : F.Ancestor n between a) : a < F.size := by
  induction between generalizing n with
  | nil => exact Nat.lt_trans (hF.parent_lt n a h) (lt_size_of_parent h)
  | cons p between ih => exact ih h.2

/-- The bytes of a node are one block of those of an ancestor. -/
theorem Ancestor.span_infix (h : F.Ancestor n between a) (htree : F.IsTree)
    (hF : F.Nested) (source : List UInt8) :
    F.span source n <:+: F.span source a := by
  have hn : n < F.size := by
    cases between with
    | nil => exact lt_size_of_parent h
    | cons p between => exact lt_size_of_parent h.1
  have hinside := h.inside hF
  exact slice_infix (hF.nonneg a (htree.lt_size_of_ancestor h)).1 hinside.1
    (hF.nonneg n hn).2 hinside.2

/-- Without a cycle no node is an ancestor of its own. -/
theorem Acyclic.ne_of_ancestor (hF : F.Acyclic)
    (h : F.Ancestor n between a) : a ≠ n := by
  obtain ⟨rank, hrank⟩ := hF
  rintro rfl
  exact Nat.lt_irrefl _ (h.rank_lt hrank).2

end Forest

-- ============================================================= emissions

/-- The content of a definition is that of its anchors. -/
theorem Anchors.content_of_resolve {F : Forest} {source : List UInt8}
    {pattern : Int} {anchors : Anchors} {includeContent : Bool}
    {scopes : Scopes} {d : Definition}
    (h : anchors.resolve F source pattern includeContent scopes = .ok d) :
    d.content = anchors.content F source includeContent := by
  rw [resolve_eq_map] at h
  cases hbare : anchors.resolve F source pattern false {} with
  | error e =>
      rw [hbare] at h
      cases h
  | ok bare =>
      rw [hbare] at h
      cases h
      rfl

namespace Language

variable {l : Language} {F : Forest} {source : List UInt8}
  {options : ExtractOptions} {m : Match} {found : List Match} {e : Emission}
  {p : ProcessedMatch} {d scope : NodeId} {resolveScopes : Bool}

theorem content_of_mem_emissions
    (he : e ∈ l.emissions F source options found) :
    e.definition.content
      = e.processed.anchors.content F source options.includeContent := by
  obtain ⟨m, -, he⟩ := List.mem_filterMap.mp he
  obtain ⟨hprocess, hresolve⟩ := emission?_eq_some.mp he
  rw [resolve_of_process hprocess] at hresolve
  exact Anchors.content_of_resolve hresolve

/-- The scopes of a processed match are ancestors of its definition. -/
theorem exists_ancestor_of_process
    (h : l.process F m resolveScopes = .ok p)
    (hd : p.anchors.nodes.1 = some d)
    (hscope : p.enclosingType = some scope
      ∨ p.enclosingFunction = some scope) :
    ∃ between, F.Ancestor d between scope := by
  rw [process] at h
  split at h
  next => cases h
  next =>
    cases h
    have hd : (Anchors.select (some (l.tracks F)) m.captures).definition.bind
        (·.node) = some d := hd
    have haround : ∀ around, (if resolveScopes then
          ((Anchors.select (some (l.tracks F)) m.captures).definition.bind
            (·.node)).bind F.parent
        else none) = some around → F.parent d = some around := by
      intro around h
      split at h
      next => rwa [hd] at h
      next => cases h
    rcases hscope with htype | hfunction
    · obtain ⟨around, hparent, hfound⟩ := Option.bind_eq_some_iff.mp htype
      exact Forest.exists_ancestor_of_search (haround _ hparent)
        (Forest.search_of_enclosingType hfound)
    · obtain ⟨around, hparent, hfound⟩ := Option.bind_eq_some_iff.mp hfunction
      exact Forest.exists_ancestor_of_search (haround _ hparent)
        (Forest.search_of_enclosingFunction hfound)

end Language

/-- For every built-in pack whose grammar can be loaded, every source and
every tree of it with nested spans: the content of a definition has the
bytes of its name in it as one block, which is not empty, and every scope
found around the definition is another node and spans all that the
definition spans. -/
theorem LanguagePack.names_lie_inside_content (G : Grammars)
    (pack : LanguagePack) (hpack : pack ∈ builtIn) (hloads : pack.Loads G) :
    ∃ l, pack.register G = .ok l ∧ ∀ (F : Forest) (source : List UInt8),
      F.IsTree → F.Nested →
      ∀ (r : Registry) (path : String) (resolveScopes : Bool)
        (parse : Grammar → List UInt8 → Option Forest),
        r.forPath path = .ok l → parse l.grammar source = some F →
        ∃ emissions : List Emission,
          emissions = l.emissions F source ⟨true, resolveScopes⟩
              (l.query.run F l.grammar)
          ∧ (r.outline { parse } path source ⟨true, resolveScopes⟩).result
              = .ok ⟨path, l.name, emissions.map (·.definition)⟩
          ∧ ∀ e ∈ emissions, ∃ d block,
            e.processed.anchors.nodes.1 = some d
            ∧ e.definition.content = some (F.span source d)
            ∧ block <:+: F.span source d ∧ block ≠ []
            ∧ Utf8.decode block = e.definition.name
            ∧ ∀ scope, e.processed.enclosingType = some scope
                ∨ e.processed.enclosingFunction = some scope →
              scope ≠ d ∧ F.Inside d scope := by
  obtain ⟨l, hregister, hl⟩ := builtIn_wellMarked hpack hloads
  have hlocated := builtIn_located hpack hregister
  refine ⟨l, hregister, fun F source hF hnested => ?_⟩
  intro r path resolveScopes parse hforPath hparse
  refine ⟨_, rfl, Language.outline_emissions hforPath hparse, fun e he => ?_⟩
  obtain ⟨m, x, site, hx, hcaptures, hprocess, hanchors, hname, hnonempty,
    -⟩ := Language.exists_site_of_mem_emissions hl hF he
  obtain ⟨between, hbelow⟩ :=
    Language.exists_ancestor_of_captures hlocated hF hx hcaptures
  have hd : e.processed.anchors.nodes.1 = some site.definition := by
    rw [hanchors, Site.nodes_anchors]
  refine ⟨site.definition, F.span source site.name, hd, ?_,
    hbelow.span_infix hF hnested source, ?_, hname.symm, ?_⟩
  · rw [Language.content_of_mem_emissions he, hanchors]
    rfl
  · rwa [hname, Utf8.isEmpty_decode, List.isEmpty_eq_false_iff] at hnonempty
  · intro scope hscope
    obtain ⟨around, habove⟩ :=
      Language.exists_ancestor_of_process hprocess hd hscope
    exact ⟨hF.acyclic.ne_of_ancestor habove, habove.inside hnested⟩

/-- In `class A: def f` the name of the function is the last byte of its
content, and the class around it spans all of it. -/
theorem LanguagePack.names_lie_inside_content_method :
    ∃ l, python.register .installed = .ok l ∧ methodForest.IsTree
      ∧ methodForest.Nested
      ∧ ∃ e ∈ l.emissions methodForest methodSource ⟨true, true⟩
          (l.query.run methodForest l.grammar),
        e.definition.name = "f"
        ∧ e.definition.content = some [100, 101, 102, 32, 102]
        ∧ (∃ block, block <:+: [100, 101, 102, 32, 102] ∧ block ≠ []
          ∧ Utf8.decode block = "f")
        ∧ e.processed.enclosingType = some 0 ∧ methodForest.Inside 3 0 := by
  obtain ⟨l, hl, hnames⟩ := names_lie_inside_content .installed
    python (by simp [builtIn]) rfl
  have hF : methodForest.IsTree := Forest.isTree_ofPreorder ..
  have hnested : methodForest.Nested :=
    ⟨by decide +kernel, by decide +kernel⟩
  obtain ⟨emissions, rfl, -, hinside⟩ := hnames methodForest methodSource hF
    hnested { byExtension := [("py", l)] } "a.py" true
    (fun _ _ => some methodForest) rfl rfl
  have hmethod : ⟨0, [⟨"function", some 3⟩, ⟨"name", some 4⟩]⟩
      ∈ l.query.run methodForest l.grammar := by
    cases hl
    rw [Query.mem_run_iff]
    decide +kernel
  obtain ⟨e, he, hname, hd, htype⟩ : ∃ e ∈ l.emissions methodForest
      methodSource ⟨true, true⟩ (l.query.run methodForest l.grammar),
      e.definition.name = "f" ∧ e.processed.anchors.nodes.1 = some 3
        ∧ e.processed.enclosingType = some 0 := by
    cases hl
    exact ⟨_, List.mem_filterMap.mpr ⟨_, hmethod, rfl⟩, rfl, rfl, rfl⟩
  obtain ⟨d, block, hd', hcontent, hblock, hne, hdecode, hscopes⟩ :=
    hinside e he
  cases hd.symm.trans hd'
  rw [hname] at hdecode
  exact ⟨l, hl, hF, hnested, e, he, hname, hcontent, ⟨block, hblock, hne,
    hdecode⟩, htype, (hscopes 0 (.inl htype)).2⟩

end Outline
