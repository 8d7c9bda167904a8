/-
The table of extensions.

Extensions are compared in lower case, and they are lower-cased twice, when
a pack is made a language and when the language claims them. What a pack
claims is nevertheless what its language claims, because the second time
changes nothing (`Text.lower_lower`).

The extensions of a language have no order of their own, so the registry is
looked at here under every order in which each language may claim them
(`Claiming`). Which extension is found taken may depend on it, but neither
whether one is nor what a registry answers: both are said by the packs alone
(`Registry.builtBy_cases`, `Registry.Serves`).
-/
import Mathlib.Data.List.Nodup
import Mathlib.Data.List.Pairwise
import Outline.Proofs.Language.Registration
import Outline.Proofs.Text.LowerTwice

namespace Outline

open Keyed

namespace LanguagePack

variable {G : Grammars} {p q : LanguagePack} {l : Language}

/-- The extensions of a language are in lower case already. -/
theorem map_lower_extensions (h : p.register G = .ok l) :
    l.extensions.map Text.lower = l.extensions := by
  refine (List.map_congr_left fun ext hext => ?_).trans (List.map_id _)
  obtain ⟨spelling, -, rfl⟩ :=
    List.mem_map.mp ((mem_extensions_of_register h).mp hext)
  exact Text.lower_lower spelling

instance : Std.Symm Apart := ⟨fun _ _ h _ hq hp => h hp hq⟩

/-- Two packs have spellings of one extension. -/
theorem exists_claim_iff :
    (∃ ext, ext ∈ p.claims ∧ ext ∈ q.claims)
      ↔ ∃ a ∈ p.extensions, ∃ b ∈ q.extensions,
        Text.lower a = Text.lower b := by
  constructor
  · rintro ⟨ext, hp, hq⟩
    obtain ⟨a, ha, rfl⟩ := List.mem_map.mp hp
    obtain ⟨b, hb, hab⟩ := List.mem_map.mp hq
    exact ⟨a, ha, b, hb, hab.symm⟩
  · rintro ⟨a, ha, b, hb, hab⟩
    exact ⟨_, List.mem_map_of_mem ha, hab ▸ List.mem_map_of_mem hb⟩

end LanguagePack

namespace Registry

variable {G : Grammars} {packs : List LanguagePack}
  {order : Language → List String}
  {languages : List Language} {l : Language}

-- ================================================================ orders

/-- The order in which the languages of packs go through their extensions,
each of them lower-cased once more. -/
def Claiming (G : Grammars) (packs : List LanguagePack)
    (order : Language → List String) : Prop :=
  ∀ p ∈ packs, ∀ l, p.register G = .ok l →
    (order l).Perm (l.extensions.map Text.lower)

/-- What a build of packs comes to in such an order. -/
def builtBy (G : Grammars) (order : Language → List String)
    (packs : List LanguagePack) : Except StructureFault Registry :=
  ofLanguagesBy order (packs.filterMap (·.language? G)) []

/-- The order in which extensions are listed is one of them. -/
theorem claiming_extensions (G : Grammars) (packs : List LanguagePack) :
    Claiming G packs (·.extensions) := by
  intro p _ l hl
  rw [LanguagePack.map_lower_extensions hl]

theorem Claiming.orders (h : Claiming G packs order) :
    ∀ l ∈ packs.filterMap (·.language? G), Orders order l := by
  intro l hl
  obtain ⟨p, hp, hlanguage⟩ := List.mem_filterMap.mp hl
  have hregister := LanguagePack.language?_eq_some.mp hlanguage
  have hperm := h p hp l hregister
  rw [LanguagePack.map_lower_extensions hregister] at hperm
  exact ⟨hperm.nodup_iff.mpr
    (LanguagePack.nodup_extensions_of_register hregister),
    fun _ => hperm.mem_iff⟩

/-- Packs that all register become languages of the same names. -/
theorem names_languages (husable : ∀ p ∈ packs, p.usable G = true) :
    (packs.filterMap (·.language? G)).map (·.name) = packs.map (·.name) := by
  have hnames := LanguagePack.names_of_usable (G := G) packs
  rwa [List.filter_eq_self.mpr husable] at hnames

/-- They are apart if and only if their languages are. -/
theorem pairwise_apart_languages (husable : ∀ p ∈ packs, p.usable G = true) :
    (packs.filterMap (·.language? G)).Pairwise Apart
      ↔ packs.Pairwise LanguagePack.Apart := by
  rw [pairwise_apart_iff, List.filter_eq_self.mpr husable]

/-- A build of packs that all register comes to one of them. -/
theorem build_eq_builtBy (strict : Bool)
    (hnames : (packs.map (·.name)).Nodup)
    (husable : ∀ p ∈ packs, p.usable G = true) :
    (build G packs { strict }).result = builtBy G (·.extensions) packs := by
  have hlenient : (build G packs {}).result
      = builtBy G (·.extensions) packs := by
    have hnone := LanguagePack.filterMap_failure?_usable (G := G) packs
    rw [List.filter_eq_self.mpr husable] at hnone
    rw [build_lenient none hnames, selectPacks, hnone]
    rfl
  cases strict with
  | false => exact hlenient
  | true =>
      rw [← hlenient]
      unfold build
      dsimp only
      rw [selectPacks, registerAll_strict husable]

-- =============================================================== answers

/-- What a registry of packs has and answers: the packs in order, the
extensions that they claim, for a path the language of the one pack that
claims its extension, and that language again for its name. -/
structure Serves (G : Grammars) (packs : List LanguagePack) (r : Registry) :
    Prop where
  languages : r.languages = packs.map (·.name)
  distinct : (keys r.extensions).Nodup
  extensions : ∀ ext name, r.extensions.lookup ext = some name ↔
    ∃ p ∈ packs, p.name = name ∧ ext ∈ p.claims
  unique : ∀ p ∈ packs, ∀ q ∈ packs, ∀ ext,
    ext ∈ p.claims → ext ∈ q.claims → p = q
  forPath : ∀ path l, r.forPath path = .ok l ↔
    ∃ p ∈ packs, p.register G = .ok l ∧ extensionOf path ∈ p.claims
  unsupported : ∀ path, (∀ p ∈ packs, extensionOf path ∉ p.claims) →
    r.forPath path = .error (.unsupportedPath path)
  forLanguage : ∀ path l, r.forPath path = .ok l →
    r.forLanguage l.name = .ok l

/-- Two registries that cannot be told apart by asking them. -/
structure SameAnswers (r r' : Registry) : Prop where
  languages : r.languages = r'.languages
  failures : r.failures = r'.failures
  extensions : ∀ ext, r.extensions.lookup ext = r'.extensions.lookup ext
  contains : ∀ name, r.contains name = r'.contains name
  supports : ∀ path, r.supports path = r'.supports path
  forPath : ∀ path, r.forPath path = r'.forPath path
  forLanguage : ∀ name, r.forLanguage name = r'.forLanguage name

theorem keys_extensions (r : Registry) :
    keys r.extensions = keys r.byExtension := by
  rw [keys, Registry.extensions, List.map_map]
  rfl

theorem lookup_extensions (r : Registry) (ext : String) :
    r.extensions.lookup ext = (r.byExtension.lookup ext).map (·.name) := by
  unfold Registry.extensions
  induction r.byExtension with
  | nil => rfl
  | cons entry rest ih =>
      obtain ⟨other, l⟩ := entry
      rw [List.map_cons, lookup_cons, lookup_cons, ih]
      split <;> rfl

theorem forPath_eq_ok {r : Registry} {path : String} :
    r.forPath path = .ok l ↔
      r.byExtension.lookup (extensionOf path) = some l := by
  unfold Registry.forPath
  cases r.byExtension.lookup (extensionOf path) <;> simp

/-- No two languages have an entry for one extension. -/
theorem nodup_keys_byExtension (horder : ∀ l ∈ languages, Orders order l)
    (hapart : languages.Pairwise Apart) :
    (keys (tablesBy order languages []).byExtension).Nodup := by
  have hkeys : keys (tablesBy order languages []).byExtension
      = languages.flatMap order := by
    simp [keys, tablesBy, List.map_flatMap, Function.comp_def]
  rw [hkeys, List.nodup_flatMap]
  refine ⟨fun l hl => (horder l hl).nodup, ?_⟩
  refine hapart.imp_of_mem fun {a b} ha hb h => ?_
  intro ext hfirst hsecond
  exact h (((horder a ha).mem_iff ext).mp hfirst)
    (((horder b hb).mem_iff ext).mp hsecond)

/-- The table of extensions has each language under what it claims. -/
theorem lookup_byExtension {ext : String}
    (horder : ∀ l ∈ languages, Orders order l)
    (hapart : languages.Pairwise Apart) :
    (tablesBy order languages []).byExtension.lookup ext = some l
      ↔ l ∈ languages ∧ ext ∈ l.extensions := by
  rw [lookup_eq_some_iff (nodup_keys_byExtension horder hapart),
    mem_byExtension]
  exact and_congr_right fun hl => (horder l hl).mem_iff ext

/-- The table of names has each language under its name. -/
theorem forLanguage_tablesBy (hnames : (languages.map (·.name)).Nodup)
    (hl : l ∈ languages) :
    (tablesBy order languages []).forLanguage l.name = .ok l := by
  have hkeys : (keys (tablesBy order languages []).byName).Nodup := by
    have hlanguages : keys (tablesBy order languages []).byName
        = languages.map (·.name) := languages_tablesBy
    rwa [hlanguages]
  have hlookup : (tablesBy order languages []).byName.lookup l.name
      = some l :=
    (lookup_eq_some_iff hkeys).mpr (List.mem_map.mpr ⟨l, hl, rfl⟩)
  rw [Registry.forLanguage, hlookup]

/-- The languages of packs that claim an extension are those of the packs
that do. -/
theorem exists_pack_of_claim {ext : String} :
    (l ∈ packs.filterMap (·.language? G) ∧ ext ∈ l.extensions) ↔
      ∃ p ∈ packs, p.register G = .ok l ∧ ext ∈ p.claims := by
  rw [List.mem_filterMap]
  constructor
  · rintro ⟨⟨p, hp, hlanguage⟩, hext⟩
    have hregister := LanguagePack.language?_eq_some.mp hlanguage
    exact ⟨p, hp, hregister,
      (LanguagePack.mem_extensions_of_register hregister).mp hext⟩
  · rintro ⟨p, hp, hregister, hext⟩
    exact ⟨⟨p, hp, LanguagePack.language?_eq_some.mpr hregister⟩,
      (LanguagePack.mem_extensions_of_register hregister).mpr hext⟩

/-- The tables of packs that are apart, whatever the order. -/
theorem serves_tablesBy (hnames : (packs.map (·.name)).Nodup)
    (husable : ∀ p ∈ packs, p.usable G = true) (horder : Claiming G packs order)
    (hapart : packs.Pairwise LanguagePack.Apart) :
    Serves G packs (tablesBy order (packs.filterMap (·.language? G)) []) := by
  have hmeet := (pairwise_apart_languages husable).mpr hapart
  have hlookup : ∀ ext l,
      (tablesBy order (packs.filterMap (·.language? G)) []).byExtension.lookup
          ext = some l
        ↔ ∃ p ∈ packs, p.register G = .ok l ∧ ext ∈ p.claims := fun ext l =>
    (lookup_byExtension horder.orders hmeet).trans exists_pack_of_claim
  constructor
  · rw [languages_tablesBy, names_languages husable]
  · rw [keys_extensions]
    exact nodup_keys_byExtension horder.orders hmeet
  · intro ext name
    simp only [lookup_extensions, Option.map_eq_some_iff, hlookup]
    constructor
    · rintro ⟨l, ⟨p, hp, hregister, hext⟩, rfl⟩
      exact ⟨p, hp, (LanguagePack.language_of_register hregister).1.symm, hext⟩
    · rintro ⟨p, hp, rfl, hext⟩
      obtain ⟨l, hregister⟩ := LanguagePack.usable_iff.mp (husable p hp)
      exact ⟨l, ⟨p, hp, hregister, hext⟩,
        (LanguagePack.language_of_register hregister).1⟩
  · intro p hp q hq ext hpext hqext
    by_contra hne
    exact hapart.forall hp hq hne hpext hqext
  · intro path l
    rw [forPath_eq_ok, hlookup]
  · intro path hnone
    have hnothing : (tablesBy order (packs.filterMap (·.language? G))
        []).byExtension.lookup (extensionOf path) = none := by
      rw [Option.eq_none_iff_forall_ne_some]
      intro l hl
      obtain ⟨p, hp, -, hext⟩ := (hlookup _ l).mp hl
      exact hnone p hp hext
    rw [Registry.forPath, hnothing]
  · intro path l hl
    have hmem := (lookup_byExtension horder.orders hmeet).mp
      (forPath_eq_ok.mp hl)
    refine forLanguage_tablesBy ?_ hmem.1
    rwa [names_languages husable]

/-- Two orders make tables of the same entries. -/
theorem sameAnswers_tablesBy {order' : Language → List String}
    (horder : ∀ l ∈ languages, Orders order l)
    (horder' : ∀ l ∈ languages, Orders order' l)
    (hapart : languages.Pairwise Apart) :
    SameAnswers (tablesBy order languages []) (tablesBy order' languages [])
    := by
  have hlookup : ∀ ext,
      (tablesBy order languages []).byExtension.lookup ext
        = (tablesBy order' languages []).byExtension.lookup ext := fun ext =>
    Option.ext fun l => (lookup_byExtension horder hapart).trans
      (lookup_byExtension horder' hapart).symm
  refine ⟨rfl, rfl, fun ext => ?_, fun _ => rfl, fun path => ?_,
    fun path => ?_, fun _ => rfl⟩
  · rw [lookup_extensions, lookup_extensions, hlookup]
  · rw [Registry.supports, Registry.supports, hlookup]
  · rw [Registry.forPath, Registry.forPath, hlookup]

-- ================================================================ builds

/-- An earlier and a later language are of an earlier and a later pack. -/
theorem exists_packs_of_sublist {first second : Language}
    (h : [first, second].Sublist (packs.filterMap (·.language? G))) :
    ∃ p q, [p, q].Sublist packs ∧ p.register G = .ok first
      ∧ q.register G = .ok second := by
  induction packs with
  | nil => cases h
  | cons p rest ih =>
      cases hlanguage : p.language? G with
      | none =>
          simp only [List.filterMap_cons, hlanguage] at h
          obtain ⟨p', q, hsub, hfirst, hsecond⟩ := ih h
          exact ⟨p', q, hsub.cons p, hfirst, hsecond⟩
      | some l =>
          simp only [List.filterMap_cons, hlanguage] at h
          cases h with
          | cons _ h =>
              obtain ⟨p', q, hsub, hfirst, hsecond⟩ := ih h
              exact ⟨p', q, hsub.cons p, hfirst, hsecond⟩
          | cons_cons _ h =>
              obtain ⟨q, hq, hregister⟩ :=
                List.mem_filterMap.mp (List.singleton_sublist.mp h)
              exact ⟨p, q, (List.singleton_sublist.mpr hq).cons_cons p,
                LanguagePack.language?_eq_some.mp hlanguage,
                LanguagePack.language?_eq_some.mp hregister⟩

/-- A build in any order ends with the tables of the packs, if no two of
them claim one extension, and otherwise with the names of two that do, the
earlier one first. -/
theorem builtBy_cases (hnames : (packs.map (·.name)).Nodup)
    (husable : ∀ p ∈ packs, p.usable G = true)
    (horder : Claiming G packs order) :
    (packs.Pairwise LanguagePack.Apart ∧ builtBy G order packs
        = .ok (tablesBy order (packs.filterMap (·.language? G)) []))
    ∨ ∃ p q ext, [p, q].Sublist packs ∧ ext ∈ p.claims ∧ ext ∈ q.claims
      ∧ builtBy G order packs = .error (.extensionTaken ext p.name q.name) := by
  have hlanguages : ((packs.filterMap (·.language? G)).map (·.name)).Nodup := by
    rwa [names_languages husable]
  rcases ofLanguagesBy_eq [] hlanguages horder.orders with
    ⟨hapart, hok⟩ | ⟨-, first, second, ext, hsub, hfirst, hsecond, herror⟩
  · exact .inl ⟨(pairwise_apart_languages husable).mp hapart, hok⟩
  · obtain ⟨p, q, hpair, hp, hq⟩ := exists_packs_of_sublist hsub
    rw [(LanguagePack.language_of_register hp).1,
      (LanguagePack.language_of_register hq).1] at herror
    exact .inr ⟨p, q, ext, hpair,
      (LanguagePack.mem_extensions_of_register hp).mp hfirst,
      (LanguagePack.mem_extensions_of_register hq).mp hsecond, herror⟩

/-- Packs that claim one extension are not apart. -/
theorem not_pairwise_apart {p q : LanguagePack}
    (hpair : [p, q].Sublist packs)
    (hclaim : ∃ ext, ext ∈ p.claims ∧ ext ∈ q.claims) :
    ¬packs.Pairwise LanguagePack.Apart := by
  intro hapart
  obtain ⟨ext, hp, hq⟩ := hclaim
  exact List.pairwise_iff_forall_sublist.mp hapart hpair hp hq

/-- For packs with names of their own that all register, a build is one of
those in which every language claims its extensions in some order, each
lower-cased once more. In whatever order that is, the build fails if and
only if two packs have spellings of one extension, and then for an
extension that two packs claim, which it names, the earlier one first.
Otherwise the registry has every extension under the pack that claims it,
a path and then the name of its language lead to the language of that
pack, and a path that no pack claims is not supported. No other order fails
where this one does not, or makes a registry with other answers. -/
theorem build_tables_extensions (G : Grammars) (packs : List LanguagePack)
    (strict : Bool) (hnames : (packs.map (·.name)).Nodup)
    (husable : ∀ p ∈ packs, p.usable G = true) :
    (build G packs { strict }).result = builtBy G (·.extensions) packs
    ∧ Claiming G packs (·.extensions)
    ∧ ∀ order, Claiming G packs order →
      ((∃ ext first second, builtBy G order packs
          = .error (.extensionTaken ext first second)) ↔
        ∃ p q, [p, q].Sublist packs ∧ ∃ a ∈ p.extensions,
          ∃ b ∈ q.extensions, Text.lower a = Text.lower b)
      ∧ (∀ e, builtBy G order packs = .error e →
        ∃ p q ext, [p, q].Sublist packs ∧ p.name ≠ q.name
          ∧ ext ∈ p.claims ∧ ext ∈ q.claims
          ∧ e = .extensionTaken ext p.name q.name)
      ∧ ((¬∃ p q, [p, q].Sublist packs ∧ ∃ a ∈ p.extensions,
          ∃ b ∈ q.extensions, Text.lower a = Text.lower b) →
        ∃ r, builtBy G order packs = .ok r ∧ Serves G packs r)
      ∧ ∀ order', Claiming G packs order' →
        ∀ r, builtBy G order packs = .ok r →
          ∃ r', builtBy G order' packs = .ok r' ∧ SameAnswers r r' := by
  refine ⟨build_eq_builtBy strict hnames husable, claiming_extensions G packs,
    fun order horder => ?_⟩
  have hcases := builtBy_cases hnames husable horder
  refine ⟨⟨?_, ?_⟩, fun e he => ?_, fun hnone => ?_,
    fun order' horder' r hr => ?_⟩
  · rintro ⟨ext, first, second, herror⟩
    rcases hcases with ⟨-, hok⟩ | ⟨p, q, ext, hpair, hp, hq, -⟩
    · rw [hok] at herror
      cases herror
    · exact ⟨p, q, hpair, LanguagePack.exists_claim_iff.mp ⟨ext, hp, hq⟩⟩
  · rintro ⟨p, q, hpair, hspellings⟩
    rcases hcases with ⟨hapart, -⟩ | ⟨p, q, ext, -, -, -, herror⟩
    · exact absurd hapart (not_pairwise_apart hpair
        (LanguagePack.exists_claim_iff.mpr hspellings))
    · exact ⟨ext, p.name, q.name, herror⟩
  · rcases hcases with ⟨-, hok⟩ | ⟨p, q, ext, hpair, hp, hq, herror⟩
    · rw [hok] at he
      cases he
    · rw [herror] at he
      have hne : p.name ≠ q.name :=
        List.pairwise_iff_forall_sublist.mp hnames
          (hpair.map LanguagePack.name)
      exact ⟨p, q, ext, hpair, hne, hp, hq, (Except.error.inj he).symm⟩
  · rcases hcases with ⟨hapart, hok⟩ | ⟨p, q, ext, hpair, hp, hq, -⟩
    · exact ⟨_, hok, serves_tablesBy hnames husable horder hapart⟩
    · exact absurd ⟨p, q, hpair, LanguagePack.exists_claim_iff.mp
        ⟨ext, hp, hq⟩⟩ hnone
  · rcases hcases with ⟨hapart, hok⟩ | ⟨p, q, ext, -, -, -, herror⟩
    · rw [hok] at hr
      cases hr
      have hsame := sameAnswers_tablesBy horder.orders horder'.orders
        ((pairwise_apart_languages husable).mpr hapart)
      rcases builtBy_cases hnames husable horder' with
        ⟨-, hok'⟩ | ⟨p, q, ext, hpair, hp, hq, -⟩
      · exact ⟨_, hok', hsame⟩
      · exact absurd hapart (not_pairwise_apart hpair ⟨ext, hp, hq⟩)
    · rw [herror] at hr
      cases hr

/-- A pack with two spellings of one extension, and another pack. -/
def spelledPacks : List LanguagePack :=
  [{ name := "go", grammarPackage := "go", grammarModule := "tree_sitter_go"
     extensions := ["Go", "GO", "mod"] },
    { name := "python", grammarPackage := "python"
      grammarModule := "tree_sitter_python", extensions := ["py"] }]

/-- A pack with a third spelling. -/
def spellingPack : LanguagePack :=
  { name := "c", grammarPackage := "c", grammarModule := "tree_sitter_c"
    extensions := ["c", "gO"] }

/-- The two spellings of one pack are one extension, also if it is claimed
after the other one, and the third spelling belongs to the first pack. -/
theorem build_tables_extensions_spelledPacks :
    (spelledPacks.map (·.name)).Nodup
    ∧ (∀ p ∈ spelledPacks, p.usable .installed = true)
    ∧ (∃ r, (build .installed spelledPacks {}).result = .ok r
      ∧ r.extensions.lookup "go" = some "go"
      ∧ (∃ l, r.forPath "a.gO" = .ok l ∧ r.forLanguage l.name = .ok l)
      ∧ ∃ r', builtBy .installed (·.extensions.reverse) spelledPacks = .ok r'
        ∧ SameAnswers r r')
    ∧ ((spelledPacks ++ [spellingPack]).map (·.name)).Nodup
    ∧ (∀ p ∈ spelledPacks ++ [spellingPack], p.usable .installed = true)
    ∧ (∃ ext first second,
      (build .installed (spelledPacks ++ [spellingPack]) {}).result
        = .error (.extensionTaken ext first second)) := by
  have hnames : (spelledPacks.map (·.name)).Nodup := by decide
  have husable : ∀ p ∈ spelledPacks, p.usable .installed = true := by
    decide +kernel
  have hnames' : ((spelledPacks ++ [spellingPack]).map (·.name)).Nodup := by
    decide
  have husable' : ∀ p ∈ spelledPacks ++ [spellingPack],
      p.usable .installed = true := by
    decide +kernel
  refine ⟨hnames, husable, ?_, hnames', husable', ?_⟩
  · obtain ⟨hbuild, hlisted, horders⟩ :=
      build_tables_extensions .installed spelledPacks false hnames husable
    obtain ⟨-, -, hserves, hsame⟩ := horders _ hlisted
    have hapart : spelledPacks.Pairwise LanguagePack.Apart := by
      decide +kernel
    obtain ⟨r, hr, hr'⟩ := hserves fun ⟨p, q, hpair, hspellings⟩ =>
      not_pairwise_apart hpair (LanguagePack.exists_claim_iff.mpr hspellings)
        hapart
    have hreverse : Claiming .installed spelledPacks (·.extensions.reverse) :=
      fun p hp l hl => (List.reverse_perm _).trans (hlisted p hp l hl)
    refine ⟨r, hbuild.trans hr, ?_, ?_, hsame _ hreverse r hr⟩
    · refine (hr'.extensions "go" "go").mpr ⟨_, List.mem_cons_self, rfl, ?_⟩
      decide +kernel
    · obtain ⟨l, hl⟩ := LanguagePack.usable_iff.mp
        (husable _ List.mem_cons_self)
      have hpath : r.forPath "a.gO" = .ok l :=
        (hr'.forPath "a.gO" l).mpr ⟨_, List.mem_cons_self, hl,
          by decide +kernel⟩
      exact ⟨l, hpath, hr'.forLanguage _ l hpath⟩
  · obtain ⟨hbuild, hlisted, horders⟩ :=
      build_tables_extensions .installed (spelledPacks ++ [spellingPack])
        false hnames' husable'
    rw [hbuild]
    refine (horders _ hlisted).1.mpr ⟨_, spellingPack,
      (List.singleton_sublist.mpr List.mem_cons_self).append
        (List.Sublist.refl [spellingPack]), "GO", ?_, "gO", ?_, ?_⟩
    · decide
    · decide
    · decide +kernel

end Registry

end Outline
