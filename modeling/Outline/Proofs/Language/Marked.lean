/-
Languages whose queries mark definitions.

A language is well marked if every pattern of its query captures two
nodes: first a definition, under the name of its kind and on a node of a
kind that the language tracks, and then a name. All built-in languages
are well marked, and that is the only thing about them that the theory
of outlines uses: the three tables of a pack, its patterns, its kinds
and its tracked nodes, meet here and nowhere else.
-/
import Outline.Language.Registry
import Outline.Proofs.Query.Profile

namespace Outline

/-- The captures of a definition of a tracked kind and of its name. -/
def Profile.marks (tracked : List String) : Profile → Bool
  | [(kind, .kind node), (name, _)] =>
    (DefinitionKind.ofName? kind).isSome && tracked.contains node
      && name == nameCapture
  | _ => false

/-- Captures that such a profile describes. -/
theorem Profile.Describes.of_marks {F : Forest} {tracked : List String}
    {profile : Profile} {captures : List Capture}
    (h : profile.Describes F captures) (hmarks : profile.marks tracked = true) :
    ∃ (kind : DefinitionKind) (definition name : NodeId),
      captures = [⟨kind.name, some definition⟩, ⟨nameCapture, some name⟩]
      ∧ F.kind definition ∈ tracked := by
  unfold marks at hmarks
  split at hmarks
  next kind node name test =>
    simp only [Bool.and_eq_true, Option.isSome_iff_exists, beq_iff_eq,
      List.contains_eq_mem, decide_eq_true_eq] at hmarks
    obtain ⟨⟨⟨k, hk⟩, htracked⟩, rfl⟩ := hmarks
    have hname : k.name = kind := by simpa using List.find?_some hk
    obtain ⟨⟨_, _⟩, _, ⟨rfl, d, rfl, _, hkind⟩, hsecond, rfl⟩ :=
      List.forall₂_cons_left_iff.mp h
    obtain ⟨⟨_, _⟩, _, ⟨hc, n, rfl, _⟩, hend, rfl⟩ :=
      List.forall₂_cons_left_iff.mp hsecond
    dsimp only at hc
    refine ⟨k, d, n, ?_, hkind ▸ htracked⟩
    rw [List.forall₂_nil_left_iff.mp hend, hname, hc]
  next => cases hmarks

namespace Language

variable {l : Language} {F : Forest} {g : Grammar} {x : Embedding}

/-- Whether every pattern of the query marks a definition and its
name. -/
def wellMarked (l : Language) : Bool :=
  l.query.patterns.all fun p =>
    (p.profiles []).all (Profile.marks (l.definitionKinds.map (·.1)))

/-- An embedding of a well marked query captures a tracked definition and
its name. -/
theorem exists_captures (hl : l.wellMarked = true)
    (hx : l.query.Embeds F g x) :
    ∃ (kind : DefinitionKind) (definition name : NodeId),
      l.query.captures x
          = [⟨kind.name, some definition⟩, ⟨nameCapture, some name⟩]
      ∧ l.tracks F (some definition) = true := by
  obtain ⟨p, hp, hembeds⟩ := hx
  obtain ⟨profile, hprofile, hdescribes⟩ := Pattern.exists_profile hembeds []
  have hmarks := List.all_eq_true.mp (List.all_eq_true.mp hl p
    (List.mem_of_getElem? hp)) profile hprofile
  obtain ⟨kind, d, n, hcaptures, htracked⟩ := hdescribes.of_marks hmarks
  refine ⟨kind, d, n, ?_, ?_⟩
  · simpa only [Query.captures, Query.placements, hp, Option.map_some,
      Option.getD_some] using hcaptures
  · simpa only [tracks, List.contains_eq_mem, decide_eq_true_eq] using htracked

end Language

-- ============================================================== built in

namespace LanguagePack

variable {G : Grammars} {pack : LanguagePack} {l : Language} {g : Grammar}

/-- Whether the grammar of a pack can be loaded. -/
def Loads (G : Grammars) (pack : LanguagePack) : Prop :=
  (G pack.grammarModule pack.grammarFunction).isSome = true

instance : Decidable (pack.Loads G) :=
  inferInstanceAs (Decidable (_ = true))

theorem register_eq_ok_iff :
    pack.register G = .ok l
      ↔ ∃ g, G pack.grammarModule pack.grammarFunction = some g
        ∧ pack.withGrammar g = .ok l := by
  unfold register
  cases G pack.grammarModule pack.grammarFunction <;> simp

/-- A grammar becomes part of a language, and of nothing else in it. -/
theorem withGrammar_eq_ok (h : pack.withGrammar g = .ok l) (other : Grammar) :
    pack.withGrammar other = .ok { l with grammar := other } := by
  unfold withGrammar at h ⊢
  split at h
  next => cases h
  next =>
    cases h
    rfl

/-- What is checked of all built-in packs, and is no matter of their
grammars, holds of their languages. -/
theorem of_all_builtIn (check : LanguagePack → Language → Bool)
    (hgrammar : ∀ pack (l : Language) g,
      check pack { l with grammar := g } = check pack l)
    (hall : builtIn.all (fun pack =>
      (pack.withGrammar default).toOption.all (check pack)) = true)
    (hpack : pack ∈ builtIn) (hl : pack.register G = .ok l) :
    check pack l = true := by
  obtain ⟨g, -, hg⟩ := register_eq_ok_iff.mp hl
  have hcheck := List.all_eq_true.mp hall pack hpack
  rw [withGrammar_eq_ok hg default] at hcheck
  exact (hgrammar pack l default).symm.trans hcheck

/-- Every built-in pack registers if its grammar can be loaded, as a well
marked language. -/
theorem builtIn_wellMarked (hpack : pack ∈ builtIn) (hloads : pack.Loads G) :
    ∃ l, pack.register G = .ok l ∧ l.wellMarked = true := by
  have hall : builtIn.all (fun pack =>
      (pack.withGrammar default).toOption.any Language.wellMarked)
        = true := by
    decide +kernel
  have hmarked := List.all_eq_true.mp hall pack hpack
  obtain ⟨g, hg⟩ := Option.isSome_iff_exists.mp hloads
  cases hdefault : pack.withGrammar default with
  | ok l =>
      rw [hdefault] at hmarked
      exact ⟨_, register_eq_ok_iff.mpr ⟨g, hg, withGrammar_eq_ok hdefault g⟩,
        hmarked⟩
  | error e =>
      rw [hdefault] at hmarked
      cases hmarked

end LanguagePack

end Outline
