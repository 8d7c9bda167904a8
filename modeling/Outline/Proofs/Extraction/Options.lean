/-
Options decide what is shown, never what is found.

Scopes are searched for before a match is known to be usable, and a
definition gets its content at the very end, so options are read on both
sides of every check. None of the checks reads what they brought in: what
a match becomes is, up to content and scopes, what it becomes without
options (`Language.resolve_bare`). The streams of definitions and faults
inherit this match by match, and with them the outline and its events.
-/
import Outline.Proofs.Extraction.Skipping
import Outline.Proofs.Scope.Nearest

namespace Outline

/-- The definition with nothing that options add. -/
def Definition.bare (d : Definition) : Definition :=
  { d with content := none, scopes := {} }

-- =============================================================== matches

namespace Anchors

variable {F : Forest} {source : List UInt8} {pattern : Int}
  {anchors : Anchors} {includeContent : Bool} {scopes : Scopes}
  {d : Definition}

/-- The content that a definition of the anchors has. -/
def content (anchors : Anchors) (F : Forest) (source : List UInt8)
    (includeContent : Bool) : Option (List UInt8) :=
  if includeContent then
    (anchors.definition.bind (·.node)).map (F.span source)
  else none

/-- Content and scopes are put on what the anchors give without them. -/
theorem resolve_eq_map :
    anchors.resolve F source pattern includeContent scopes
      = (anchors.resolve F source pattern false {}).map fun d =>
          { d with
            content := anchors.content F source includeContent
            scopes := scopes } := by
  unfold resolve
  split
  next => rfl
  next => rfl
  next kind definition hdefinition =>
    have hcontent : anchors.content F source includeContent
        = if includeContent then some (F.span source definition) else none := by
      rw [content, hdefinition]
      rfl
    rw [hcontent]
    split
    next => rfl
    next => rfl
    next naming _ =>
      -- the checks of the node, its name and its range
      by_cases hmissing : F.missing definition = true
      · simp only [if_pos hmissing]
        rfl
      · by_cases hname :
            (Utf8.decode (F.span source naming)).isEmpty = true
        · simp only [if_neg hmissing, if_pos hname]
          rfl
        · by_cases hrange : (F.range definition).wellFormed = true
          · simp only [if_neg hmissing, if_neg hname, if_pos hrange]
            rfl
          · simp only [if_neg hmissing, if_neg hname, if_neg hrange]
            rfl

/-- Which definition or fault anchors give does not depend on what is
added to it. -/
theorem resolve_bare :
    (anchors.resolve F source pattern includeContent scopes).map
        Definition.bare
      = anchors.resolve F source pattern false {} := by
  -- without anything added, nothing is taken away
  have hself : anchors.resolve F source pattern false {}
      = (anchors.resolve F source pattern false {}).map Definition.bare :=
    resolve_eq_map
  rw [resolve_eq_map]
  refine Eq.trans ?_ hself.symm
  cases anchors.resolve F source pattern false {} <;> rfl

/-- A definition has content if that was asked for, and the scopes it was
given. -/
theorem resolve_extras
    (h : anchors.resolve F source pattern includeContent scopes = .ok d) :
    d.content.isSome = includeContent ∧ d.scopes = scopes := by
  unfold resolve at h
  split at h
  next => cases h
  next => cases h
  next =>
    split at h
    next => cases h
    next => cases h
    next =>
      split at h
      next => cases h
      next =>
        dsimp only at h
        split at h
        next => cases h
        next =>
          split at h
          next =>
            cases h
            cases includeContent <;> exact ⟨rfl, rfl⟩
          next => cases h

end Anchors

namespace Language

variable {l : Language} {F : Forest} {source : List UInt8}
  {options : ExtractOptions} {m : Match} {found : List Match}
  {d : Definition}

/-- Without options a match becomes the same, but for what options
add. -/
theorem resolve_bare (options : ExtractOptions) :
    (l.resolve F source options m).map Definition.bare
      = l.resolve F source {} m := by
  unfold resolve process
  by_cases hempty : m.captures.isEmpty = true
  · simp only [if_pos hempty]
    rfl
  · simp only [if_neg hempty]
    exact Anchors.resolve_bare

/-- Content is there if it was asked for, and scopes are not there unless
they were. -/
theorem resolve_extras (h : l.resolve F source options m = .ok d) :
    d.content.isSome = options.includeContent
      ∧ (options.resolveScopes = false → d.scopes = {}) := by
  unfold resolve process at h
  by_cases hempty : m.captures.isEmpty = true
  · simp only [if_pos hempty] at h
    cases h
  · simp only [if_neg hempty] at h
    obtain ⟨hcontent, hscopes⟩ := Anchors.resolve_extras h
    refine ⟨hcontent, fun hoff => ?_⟩
    rw [hscopes, hoff]
    rfl

-- =============================================================== streams

/-- The same matches resolve under all options, to the same bare
definitions. -/
theorem map_bare_definitionsOf :
    (l.definitionsOf F source options found).map Definition.bare
      = l.definitionsOf F source {} found := by
  rw [definitionsOf, definitionsOf, List.map_filterMap]
  refine List.filterMap_congr fun m _ => ?_
  rw [← resolve_bare options]
  cases l.resolve F source options m <;> rfl

/-- The same matches fail under all options, for the same reasons. -/
theorem faultsOf_options (options : ExtractOptions) :
    l.faultsOf F source options found = l.faultsOf F source {} found := by
  refine List.filterMap_congr fun m _ => ?_
  rw [← resolve_bare options]
  cases l.resolve F source options m <;> rfl

theorem extras_of_mem_definitionsOf
    (h : d ∈ l.definitionsOf F source options found) :
    d.content.isSome = options.includeContent
      ∧ (options.resolveScopes = false → d.scopes = {}) := by
  obtain ⟨m, -, hm⟩ := List.mem_filterMap.mp h
  split at hm
  next hresolve =>
    cases hm
    exact resolve_extras hresolve
  next => cases hm

end Language

-- ============================================================== outlines

/-- Definitions that are the same up to what options add agree in kind,
name and range, one by one. -/
theorem Definition.forall₂_of_map_bare {ds ds' : List Definition}
    (h : ds.map bare = ds'.map bare) :
    List.Forall₂ (fun d d' =>
      d.kind = d'.kind ∧ d.name = d'.name ∧ d.range = d'.range) ds ds' := by
  rw [← List.forall₂_eq_eq_eq, List.forall₂_map_left_iff,
    List.forall₂_map_right_iff] at h
  refine h.imp fun d d' hbare => ?_
  have hkind : d.bare.kind = d'.bare.kind := by rw [hbare]
  have hname : d.bare.name = d'.bare.name := by rw [hbare]
  have hrange : d.bare.range = d'.bare.range := by rw [hbare]
  exact ⟨hkind, hname, hrange⟩

/-- Under any two options the outline of a file fails with the same fault
or succeeds, logs the same events, and has as many definitions, which
agree one by one in kind, name and range. All definitions have content if
it was asked for and none has otherwise, and no definition has scopes
unless they were asked for. -/
theorem Registry.outline_options_only_add_fields (r : Registry)
    (engine : Engine) (path : String) (source : List UInt8)
    (o₁ o₂ : ExtractOptions) :
    (r.outline engine path source o₁).events
        = (r.outline engine path source o₂).events
    ∧ (∀ e, (r.outline engine path source o₁).result = .error e ↔
        (r.outline engine path source o₂).result = .error e)
    ∧ ∀ out₁, (r.outline engine path source o₁).result = .ok out₁ →
      (∃ out₂, (r.outline engine path source o₂).result = .ok out₂
        ∧ out₁.path = out₂.path ∧ out₁.language = out₂.language
        ∧ out₁.definitions.length = out₂.definitions.length
        ∧ List.Forall₂ (fun d₁ d₂ => d₁.kind = d₂.kind
            ∧ d₁.name = d₂.name ∧ d₁.range = d₂.range)
          out₁.definitions out₂.definitions)
      ∧ ∀ d ∈ out₁.definitions,
        d.content.isSome = o₁.includeContent
        ∧ (o₁.resolveScopes = false →
          d.scopes.type = none ∧ d.scopes.function = none) := by
  cases hl : r.forPath path with
  | error e => simp [outline, hl, Logged.silent]
  | ok l =>
      cases hF : engine.parse l.grammar source with
      | none => simp [outline, hl, Language.outline, hF, Logged.silent]
      | some F =>
          simp only [outline, hl, Language.outline_of_parse hF rfl,
            reduceCtorEq, iff_self, implies_true, true_and, Except.ok.injEq]
          have hbare : (l.definitionsOf F source o₁
                (engine.run l.query l.grammar F)).map Definition.bare
              = (l.definitionsOf F source o₂
                (engine.run l.query l.grammar F)).map Definition.bare := by
            rw [Language.map_bare_definitionsOf,
              Language.map_bare_definitionsOf]
          have hagree := Definition.forall₂_of_map_bare hbare
          refine ⟨?_, ?_⟩
          · rw [hagree.length_eq, Language.faultsOf_options o₁,
              Language.faultsOf_options o₂]
          · rintro _ rfl
            refine ⟨⟨_, rfl, rfl, rfl, hagree.length_eq, hagree⟩, ?_⟩
            intro d hd
            obtain ⟨hcontent, hscopes⟩ :=
              Language.extras_of_mem_definitionsOf hd
            exact ⟨hcontent, fun hoff => by rw [hscopes hoff]; exact ⟨rfl, rfl⟩⟩

/-- A language with classes and functions, under the extension `x`. -/
def methodRegistry : Registry :=
  { byExtension := [("x",
      { (default : Language) with
        name := "methods"
        definitionKinds := [("class_definition", .classType),
          ("function_definition", .function)]
        scopeRules := { typeKinds := ["class_definition"] } })] }

/-- An engine that finds the class and the function of `class A: def f`,
and between them a match that fails. -/
def methodEngine : Engine where
  parse _ _ := some methodForest
  run _ _ _ :=
    [⟨0, [⟨"class", some 0⟩, ⟨"name", some 1⟩]⟩, ⟨1, [⟨"name", some 4⟩]⟩,
      ⟨2, [⟨"function", some 3⟩, ⟨"name", some 4⟩]⟩]

/-- The function has its class around it only if scopes are asked for,
and is the same function without. -/
theorem Registry.outline_options_only_add_fields_method :
    ∃ out, (methodRegistry.outline methodEngine "a.x" methodSource
          ⟨true, true⟩).result = .ok out
      ∧ out.definitions.map (·.scopes.type) = [none, some "A"]
      ∧ ∃ out', (methodRegistry.outline methodEngine "a.x" methodSource
            {}).result = .ok out'
        ∧ out.definitions.length = out'.definitions.length
        ∧ (∀ d ∈ out.definitions, d.content.isSome = true)
        ∧ ∀ d ∈ out'.definitions, d.content.isSome = false
          ∧ d.scopes.type = none := by
  obtain ⟨-, -, hrich⟩ := outline_options_only_add_fields methodRegistry
    methodEngine "a.x" methodSource ⟨true, true⟩ {}
  obtain ⟨-, -, hplain⟩ := outline_options_only_add_fields methodRegistry
    methodEngine "a.x" methodSource {} ⟨true, true⟩
  obtain ⟨⟨out', hout', -, -, hlength, -⟩, hcontent⟩ := hrich _ rfl
  obtain ⟨-, hbare⟩ := hplain out' hout'
  exact ⟨_, rfl, by decide +kernel, out', hout', hlength,
    fun d hd => (hcontent d hd).1,
    fun d hd => ⟨(hbare d hd).1, ((hbare d hd).2 rfl).1⟩⟩

end Outline
