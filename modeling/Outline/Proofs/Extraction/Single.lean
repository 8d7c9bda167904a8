/-
A match on its own.

A match of a file is processed first, which chooses its anchors and looks
for scopes, and then resolved. It can also be resolved on its own, with
nothing of the language but the kinds that it tracks. The two check for
captures and choose anchors each in their own place, but in the same way;
scopes are found before the first check of the nodes and take part in none
of them (`Anchors.resolve_scopes`). So the two differ in scopes only
(`Language.exists_scopes_resolve_eq`).
-/
import Outline.Proofs.Extraction.Options

namespace Outline

/-- Scopes are put on a finished definition. -/
theorem Anchors.resolve_scopes {F : Forest} {source : List UInt8}
    {pattern : Int} {anchors : Anchors} {includeContent : Bool}
    (scopes : Scopes) :
    anchors.resolve F source pattern includeContent scopes
      = (anchors.resolve F source pattern includeContent {}).map
          ({ · with scopes := scopes }) := by
  rw [resolve_eq_map, @resolve_eq_map _ _ _ _ includeContent {}]
  cases anchors.resolve F source pattern false {} <;> rfl

/-- What a match of a file becomes is what it becomes on its own, with
scopes; there are none unless they were asked for. -/
theorem Language.exists_scopes_resolve_eq (l : Language) (F : Forest)
    (source : List UInt8) (options : ExtractOptions) (m : Match) :
    ∃ scopes : Scopes, l.resolve F source options m
        = (m.resolve F source options.includeContent
            (some (l.tracks F))).map ({ · with scopes := scopes })
      ∧ (options.resolveScopes = false → scopes = {}) := by
  unfold resolve process Match.resolve
  by_cases hempty : m.captures.isEmpty = true
  · simp only [if_pos hempty]
    exact ⟨{}, rfl, fun _ => rfl⟩
  · simp only [if_neg hempty]
    refine ⟨_, Anchors.resolve_scopes _, fun hoff => ?_⟩
    rw [hoff]
    rfl

/-- On its own a match has no scopes. -/
theorem Match.scopes_of_resolve {F : Forest} {source : List UInt8}
    {m : Match} {includeContent : Bool}
    {tracked : Option (Option NodeId → Bool)} {d : Definition}
    (h : m.resolve F source includeContent tracked = .ok d) :
    d.scopes = {} := by
  unfold resolve at h
  split at h
  next => cases h
  next => exact (Anchors.resolve_extras h).2

/-- In a file and on its own a match fails with the same fault, or becomes
definitions that agree in kind, name, range and content. On its own it has
no scopes, and in a file it is the very same definition unless scopes were
asked for. -/
theorem Language.resolve_agrees_with_single (l : Language) (F : Forest)
    (source : List UInt8) (options : ExtractOptions) (m : Match) :
    (∃ e, l.resolve F source options m = .error e
      ∧ m.resolve F source options.includeContent (some (l.tracks F))
        = .error e)
    ∨ ∃ d d', l.resolve F source options m = .ok d
      ∧ m.resolve F source options.includeContent (some (l.tracks F)) = .ok d'
      ∧ d.kind = d'.kind ∧ d.name = d'.name ∧ d.range = d'.range
      ∧ d.content = d'.content ∧ d'.scopes = {}
      ∧ (options.resolveScopes = false → d = d') := by
  obtain ⟨scopes, hresolve, hscopes⟩ :=
    exists_scopes_resolve_eq l F source options m
  cases hsingle : m.resolve F source options.includeContent
      (some (l.tracks F)) with
  | error e =>
      rw [hsingle] at hresolve
      exact .inl ⟨e, hresolve, rfl⟩
  | ok d' =>
      rw [hsingle] at hresolve
      have hbare : d'.scopes = {} := Match.scopes_of_resolve hsingle
      refine .inr ⟨_, d', hresolve, rfl, rfl, rfl, rfl, rfl, hbare,
        fun hoff => ?_⟩
      rw [hscopes hoff, ← hbare]

/-- The function of `class A: def f` has the same name and content in its
file and on its own, and the class around it only in its file. -/
theorem Language.resolve_agrees_with_single_method :
    ∃ l d d', methodRegistry.forPath "a.x" = .ok l
      ∧ l.resolve methodForest methodSource ⟨true, true⟩
          ⟨2, [⟨"function", some 3⟩, ⟨"name", some 4⟩]⟩ = .ok d
      ∧ Match.resolve methodForest methodSource
          ⟨2, [⟨"function", some 3⟩, ⟨"name", some 4⟩]⟩ true
          (some (l.tracks methodForest)) = .ok d'
      ∧ d.name = d'.name ∧ d.content = d'.content
      ∧ d.scopes.type = some "A" ∧ d'.scopes = {} := by
  obtain ⟨l, hl⟩ : ∃ l, methodRegistry.forPath "a.x" = .ok l := ⟨_, rfl⟩
  have htype : ((l.resolve methodForest methodSource ⟨true, true⟩
      ⟨2, [⟨"function", some 3⟩, ⟨"name", some 4⟩]⟩).toOption.map
        (·.scopes.type)) = some (some "A") := by
    cases hl
    decide +kernel
  obtain ⟨e, hfile, -⟩ | ⟨d, d', hfile, hsingle, -, hname, -, hcontent, hbare,
      -⟩ := resolve_agrees_with_single l methodForest methodSource ⟨true, true⟩
        ⟨2, [⟨"function", some 3⟩, ⟨"name", some 4⟩]⟩
  · rw [hfile] at htype
    cases htype
  · rw [hfile] at htype
    exact ⟨l, d, d', hl, hfile, hsingle, hname, hcontent,
      Option.some.inj htype, hbare⟩

end Outline
