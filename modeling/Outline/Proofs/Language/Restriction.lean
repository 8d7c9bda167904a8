/-
A registry of some of the languages.

Which packs are registered is chosen first, by name, and everything else
comes after: packs that fail are put aside, names go to a table, extensions
are claimed, and an extension that is claimed twice ends the build. The
choice nevertheless commutes with all of it. What a build holds is a
function of its languages (`Registry.of_build`), and for each table it does
not matter whether languages are left out before or after it is filled
(`Registry.keys_named_filter`, `Registry.claimed_filter`).

Nothing is assumed of the packs here. Several packs may have one name; the
table of names then has the last of them where the first one was, and the
choice takes all or none of them.
-/
import Mathlib.Data.String.Basic
import Outline.Proofs.Language.Extensions

namespace Outline

open Keyed

namespace Registry

variable {G : Grammars} {packs : List LanguagePack} {strict : Bool}
  {done out : Progress}
  {wanted : List String} {languages : List Language} {l : Language}
  {table table' : List (String × Language)} {r r' : Registry}

-- =============================================================== the packs

/-- Packs are registered unless one of them fails and the build is
strict. -/
theorem exists_registerAll_iff :
    (∃ out, (registerAll G strict done packs).result = .ok out)
      ↔ (strict = true → ∀ p ∈ packs, p.usable G = true) := by
  induction packs generalizing done with
  | nil => simp [registerAll, Logged.silent]
  | cons p rest ih =>
      rw [registerAll, List.forall_mem_cons]
      cases hregister : p.register G with
      | ok l =>
          have husable := LanguagePack.usable_iff.mpr ⟨l, hregister⟩
          simp [ih, husable]
      | error e =>
          have hfails : p.usable G = false := by
            simp [LanguagePack.usable, LanguagePack.language?, hregister]
          cases strict with
          | true => simp [Logged.silent, hfails]
          | false => simpa using ih

/-- What becomes of packs are the languages of those that register. -/
theorem languages_of_registerAll
    (h : (registerAll G strict done packs).result = .ok out) :
    out.languages = done.languages ++ packs.filterMap (·.language? G) := by
  induction packs generalizing done with
  | nil =>
      cases h
      simp
  | cons p rest ih =>
      rw [registerAll] at h
      cases hregister : p.register G with
      | ok l =>
          rw [hregister] at h
          rw [ih h]
          simp [LanguagePack.language?, hregister]
      | error e =>
          rw [hregister] at h
          cases strict with
          | true => cases h
          | false =>
              rw [ih h]
              simp [LanguagePack.language?, hregister]

/-- The languages of the packs that are wanted are the languages that
are. -/
theorem filterMap_language?_filter (packs : List LanguagePack)
    (wanted : List String) :
    (packs.filter fun p => wanted.contains p.name).filterMap (·.language? G)
      = (packs.filterMap (·.language? G)).filter fun l => l.name ∈ wanted := by
  induction packs with
  | nil => rfl
  | cons p rest ih =>
      cases hlanguage : p.language? G with
      | none =>
          rw [List.filterMap_cons_none hlanguage, ← ih, List.filter_cons]
          split
          next => exact List.filterMap_cons_none hlanguage
          next => rfl
      | some l =>
          have hregister := LanguagePack.language?_eq_some.mp hlanguage
          have hname := (LanguagePack.language_of_register hregister).1
          rw [List.filterMap_cons_some hlanguage, List.filter_cons,
            List.filter_cons, ← ih, hname]
          by_cases hwanted : p.name ∈ wanted
          · simp [hwanted, List.filterMap_cons_some hlanguage]
          · simp [hwanted]

-- ============================================================== the tables

/-- Languages by name: a later one takes the place of an earlier one of
the same name. -/
def named (table : List (String × Language)) (languages : List Language) :
    List (String × Language) :=
  languages.foldl (fun table l => put l.name l table) table

/-- The extensions of languages, each with its language. -/
def claimed (languages : List Language) : List (String × Language) :=
  languages.flatMap fun l => l.extensions.map (·, l)

/-- A claim succeeds if and only if no extension is there twice
afterwards. -/
theorem claim_eq_ok_iff {exts : List String} (htable : (keys table).Nodup) :
    claim l exts table = .ok table'
      ↔ table' = table ++ exts.map (·, l) ∧ (keys table').Nodup := by
  induction exts generalizing table with
  | nil =>
      rw [claim, List.map_nil, List.append_nil]
      constructor
      · rintro ⟨⟩
        exact ⟨rfl, htable⟩
      · rintro ⟨rfl, -⟩
        rfl
  | cons ext rest ih =>
      rw [claim]
      cases hlookup : table.lookup ext with
      | some owner =>
          -- the extension is in the table, and would be there twice
          have hmem : ext ∈ keys table := by
            by_contra hnone
            rw [lookup_eq_none_iff.mpr hnone] at hlookup
            cases hlookup
          refine iff_of_false (fun h => by cases h) ?_
          rintro ⟨rfl, hnodup⟩
          rw [keys, List.map_append, List.nodup_append] at hnodup
          exact hnodup.2.2 _ hmem _ List.mem_cons_self rfl
      | none =>
          have hnew : (keys (table ++ [(ext, l)])).Nodup := by
            rw [keys, List.map_append, List.map_singleton,
              ← List.concat_eq_append]
            exact htable.concat (lookup_eq_none_iff.mp hlookup)
          dsimp only
          rw [ih hnew, List.append_assoc]
          rfl

/-- Languages are added if and only if no extension is there twice
afterwards. -/
theorem foldlM_add_eq_ok_iff (hr : (keys r.byExtension).Nodup) :
    languages.foldlM add r = .ok r'
      ↔ r' = { r with
          byName := named r.byName languages
          byExtension := r.byExtension ++ claimed languages }
        ∧ (keys r'.byExtension).Nodup := by
  induction languages generalizing r with
  | nil =>
      rw [List.foldlM_nil, claimed, List.flatMap_nil, List.append_nil]
      constructor
      · rintro ⟨⟩
        exact ⟨rfl, hr⟩
      · rintro ⟨rfl, -⟩
        rfl
  | cons l rest ih =>
      rw [List.foldlM_cons, add, claimed, List.flatMap_cons, ← claimed,
        ← List.append_assoc]
      cases hclaim : claim l l.extensions r.byExtension with
      | error e =>
          refine iff_of_false (fun h => by cases h) ?_
          rintro ⟨rfl, hnodup⟩
          have hfirst :
              (keys (r.byExtension ++ l.extensions.map (·, l))).Nodup := by
            rw [keys, List.map_append] at hnodup
            exact (List.nodup_append.mp hnodup).1
          rw [(claim_eq_ok_iff hr).mpr ⟨rfl, hfirst⟩] at hclaim
          cases hclaim
      | ok table =>
          obtain ⟨rfl, hnodup⟩ := (claim_eq_ok_iff hr).mp hclaim
          exact ih hnodup

theorem ofLanguages_eq_ok_iff {failures : List (String × StructureFault)} :
    ofLanguages languages failures = .ok r
      ↔ r = ⟨named [] languages, claimed languages, failures⟩
        ∧ (keys (claimed languages)).Nodup := by
  have hempty : (keys (Registry.byExtension { failures := failures })).Nodup :=
    List.nodup_nil
  rw [ofLanguages, foldlM_add_eq_ok_iff hempty]
  constructor
  · rintro ⟨rfl, hnodup⟩
    exact ⟨rfl, hnodup⟩
  · rintro ⟨rfl, hnodup⟩
    exact ⟨rfl, hnodup⟩

-- ------------------------------------------- leaving out before and after

/-- A wanted name that is put into both tables was in both or in none. -/
theorem keys_put_of_wanted
    (htable : keys table' = (keys table).filter (· ∈ wanted))
    (hwanted : l.name ∈ wanted) :
    keys (put l.name l table')
      = (keys (put l.name l table)).filter (· ∈ wanted) := by
  have hmem : l.name ∈ keys table' ↔ l.name ∈ keys table := by
    rw [htable, List.mem_filter]
    exact and_iff_left (decide_eq_true hwanted)
  rw [keys_put, keys_put, apply_ite (List.filter _),
    List.filter_append, ← htable]
  by_cases hfound : l.name ∈ keys table
  · rw [if_pos hfound, if_pos (hmem.mpr hfound)]
  · rw [if_neg hfound, if_neg (mt hmem.mp hfound), List.filter_singleton,
      decide_eq_true hwanted]
    rfl

/-- A name that is not wanted makes no difference. -/
theorem keys_put_of_unwanted (hwanted : l.name ∉ wanted) :
    (keys (put l.name l table)).filter (· ∈ wanted)
      = (keys table).filter (· ∈ wanted) := by
  rw [keys_put, apply_ite (List.filter _), List.filter_append,
    List.filter_singleton, decide_eq_false hwanted]
  simp

/-- The names of some languages are those names of all of them. -/
theorem keys_named_filter
    (htable : keys table' = (keys table).filter (· ∈ wanted)) :
    keys (named table' (languages.filter fun l => l.name ∈ wanted))
      = (keys (named table languages)).filter (· ∈ wanted) := by
  induction languages generalizing table table' with
  | nil => exact htable
  | cons l rest ih =>
      rw [List.filter_cons]
      by_cases hwanted : l.name ∈ wanted
      · rw [if_pos (decide_eq_true hwanted)]
        exact ih (keys_put_of_wanted htable hwanted)
      · rw [if_neg (mt of_decide_eq_true hwanted)]
        exact ih (htable.trans (keys_put_of_unwanted hwanted).symm)

/-- The extensions of some languages are those that all of them have and
that lead to one of these. -/
theorem claimed_filter (keep : Language → Bool) (languages : List Language) :
    claimed (languages.filter keep)
      = (claimed languages).filter fun e => keep e.2 := by
  induction languages with
  | nil => rfl
  | cons l rest ih =>
      have hcons : claimed (l :: rest)
          = l.extensions.map (·, l) ++ claimed rest := List.flatMap_cons
      rw [hcons, List.filter_append, ← ih, List.filter_map, List.filter_cons]
      cases hkeep : keep l with
      | true => simp [claimed, Function.comp_def, hkeep]
      | false => simp [Function.comp_def, hkeep]

/-- A part of a list in which each key has one entry finds what the list
finds, if it has the entry. -/
theorem lookup_filter_eq_some (keep : Language → Bool) {ext : String}
    (hnodup : (keys table).Nodup) :
    (table.filter fun e => keep e.2).lookup ext = some l
      ↔ table.lookup ext = some l ∧ keep l = true := by
  have hpart : (keys (table.filter fun e => keep e.2)).Nodup :=
    hnodup.sublist (List.filter_sublist.map _)
  rw [lookup_eq_some_iff hpart, lookup_eq_some_iff hnodup, List.mem_filter]

-- =============================================================== the build

/-- The languages of the packs that are wanted. -/
def chosen (G : Grammars) (packs : List LanguagePack)
    (wanted : Option (List String)) : List Language :=
  (selectPacks packs wanted).filterMap (·.language? G)

theorem chosen_some (G : Grammars) (packs : List LanguagePack)
    (wanted : List String) :
    chosen G packs (some wanted)
      = (chosen G packs none).filter fun l => l.name ∈ wanted :=
  filterMap_language?_filter packs wanted

/-- A build registers packs and then puts their languages together. -/
theorem build_eq_ok_iff {options : BuildOptions} :
    (build G packs options).result = .ok r
      ↔ ∃ done, (registerAll G options.strict {}
          (selectPacks packs options.wanted)).result = .ok done
        ∧ ofLanguages done.languages done.failures = .ok r := by
  unfold build
  dsimp only
  cases (registerAll G options.strict {}
      (selectPacks packs options.wanted)).result with
  | error e => simp
  | ok done =>
      cases hr : ofLanguages done.languages done.failures <;> simp [hr]

/-- What a build holds is a function of its languages. -/
theorem of_build {options : BuildOptions}
    (h : (build G packs options).result = .ok r) :
    r.byName = named [] (chosen G packs options.wanted)
    ∧ r.byExtension = claimed (chosen G packs options.wanted)
    ∧ (keys r.byExtension).Nodup := by
  obtain ⟨done, hdone, hr⟩ := build_eq_ok_iff.mp h
  rw [languages_of_registerAll hdone] at hr
  obtain ⟨rfl, hnodup⟩ := ofLanguages_eq_ok_iff.mp hr
  exact ⟨rfl, rfl, hnodup⟩

/-- A build succeeds unless it is strict and a pack fails, or an extension
is claimed twice. -/
theorem exists_build_iff {options : BuildOptions} :
    (∃ r, (build G packs options).result = .ok r)
      ↔ (options.strict = true →
          ∀ p ∈ selectPacks packs options.wanted, p.usable G = true)
        ∧ (keys (claimed (chosen G packs options.wanted))).Nodup := by
  constructor
  · rintro ⟨r, hr⟩
    obtain ⟨-, hextensions, hnodup⟩ := of_build hr
    obtain ⟨done, hdone, -⟩ := build_eq_ok_iff.mp hr
    rw [hextensions] at hnodup
    exact ⟨exists_registerAll_iff.mp ⟨done, hdone⟩, hnodup⟩
  · rintro ⟨husable, hnodup⟩
    obtain ⟨done, hdone⟩ : ∃ done, (registerAll G options.strict {}
        (selectPacks packs options.wanted)).result = .ok done :=
      exists_registerAll_iff.mpr husable
    have hlanguages := languages_of_registerAll hdone
    rw [List.nil_append, ← chosen] at hlanguages
    rw [← hlanguages] at hnodup
    exact ⟨_, build_eq_ok_iff.mpr
      ⟨done, hdone, ofLanguages_eq_ok_iff.mpr ⟨rfl, hnodup⟩⟩⟩

-- ============================================================== the events

/-- The event of a name that no pack has. -/
def unknownEvent (name : String) : Event :=
  { logger := registryLogger
    severity := .warning
    name := "unknown_language_requested"
    fields := [("language", .text name)] }

/-- A pack that fails is no unknown name. -/
theorem name_failureEvent (pack : String) (e : StructureFault) :
    (failureEvent pack e).name ≠ "unknown_language_requested" := by
  unfold failureEvent
  split <;> simp

theorem name_of_mem_registerAll {e : Event}
    (he : e ∈ (registerAll G strict done packs).events) :
    e.name ≠ "unknown_language_requested" := by
  induction packs generalizing done with
  | nil => cases he
  | cons p rest ih =>
      rw [registerAll] at he
      cases hregister : p.register G with
      | ok l =>
          rw [hregister] at he
          exact ih he
      | error fault =>
          rw [hregister] at he
          cases strict with
          | true => cases he
          | false =>
              rcases List.mem_cons.mp he with rfl | he
              · exact name_failureEvent p.name fault
              · exact ih he

/-- A build first says which names are unknown, and never again. -/
theorem exists_events_build (G : Grammars) (packs : List LanguagePack)
    (strict : Bool) (wanted : List String) :
    ∃ rest, (build G packs { strict, wanted := some wanted }).events
        = (unknownNames packs wanted).map unknownEvent ++ rest
      ∧ ∀ e ∈ rest, e.name ≠ "unknown_language_requested" := by
  unfold build
  dsimp only
  split
  next => exact ⟨_, rfl, fun e he => name_of_mem_registerAll he⟩
  next =>
    split
    next => exact ⟨_, rfl, fun e he => name_of_mem_registerAll he⟩
    next r _ =>
      refine ⟨_, List.append_assoc .., fun e he => ?_⟩
      rcases List.mem_append.mp he with he | he
      · exact name_of_mem_registerAll he
      · rw [List.mem_singleton.mp he]
        show "registry_built" ≠ _
        decide

theorem mem_unknownNames {name : String} :
    name ∈ unknownNames packs wanted
      ↔ name ∈ wanted ∧ ∀ p ∈ packs, p.name ≠ name := by
  simp [unknownNames]

/-- Unknown names are in order, each once. -/
theorem pairwise_lt_unknownNames (packs : List LanguagePack)
    (wanted : List String) :
    (unknownNames packs wanted).Pairwise (· < ·) :=
  pairwise_lt_mergeSort (fun _ _ => decide_eq_true_iff) _

-- ============================================================= restriction

/-- A path that leads to no language is not supported. -/
theorem forPath_eq_error {path : String} (h : ∀ l, r.forPath path ≠ .ok l) :
    r.forPath path = .error (.unsupportedPath path) := by
  unfold forPath at h ⊢
  cases hlookup : r.byExtension.lookup (extensionOf path) with
  | none => rfl
  | some l =>
      rw [hlookup] at h
      exact absurd rfl (h l)

/-- A build of some languages succeeds where that of all does. -/
theorem exists_build_some {full : Registry} (wanted : List String)
    (h : (build G packs { strict }).result = .ok full) :
    ∃ r, (build G packs { strict, wanted := some wanted }).result = .ok r := by
  obtain ⟨husable, hnodup⟩ := exists_build_iff.mp ⟨full, h⟩
  refine exists_build_iff.mpr ⟨fun hstrict p hp => ?_, ?_⟩
  · exact husable hstrict p (List.mem_of_mem_filter hp)
  · rw [chosen_some, claimed_filter]
    exact hnodup.sublist (List.filter_sublist.map _)

/-- The languages of a restricted build are some of the full build's. -/
theorem languages_of_build_some {full : Registry}
    (hfull : (build G packs { strict }).result = .ok full)
    (hr : (build G packs { strict, wanted := some wanted }).result = .ok r) :
    r.languages = full.languages.filter (· ∈ wanted) := by
  obtain ⟨hall, -, -⟩ := of_build hfull
  obtain ⟨hnames, -, -⟩ := of_build hr
  rw [Registry.languages, Registry.languages, hnames, hall, chosen_some]
  exact keys_named_filter rfl

/-- A restricted build finds what the full build finds, if it is
wanted. -/
theorem forPath_of_build_some {full : Registry} {path : String}
    (hfull : (build G packs { strict }).result = .ok full)
    (hr : (build G packs { strict, wanted := some wanted }).result = .ok r) :
    r.forPath path = .ok l ↔ full.forPath path = .ok l ∧ l.name ∈ wanted := by
  obtain ⟨-, hall, hnodup⟩ := of_build hfull
  obtain ⟨-, hextensions, -⟩ := of_build hr
  rw [hall] at hnodup
  rw [forPath_eq_ok, forPath_eq_ok, hextensions, hall, chosen_some,
    claimed_filter]
  refine (lookup_filter_eq_some (fun l => l.name ∈ wanted) hnodup).trans ?_
  rw [decide_eq_true_iff]

/-- A build that is restricted to some languages answers as the full build
does where that answers with one of these, and knows nothing else. If the
full build succeeds, so does the restricted one, with those of the
languages that are wanted, in their order. Every path whose language is
wanted keeps its language, and every other path is not supported.

Whether or not it succeeds, a restricted build first says which of the
wanted names are those of no pack: in order, each once, and nowhere else. -/
theorem build_restricted (G : Grammars) (packs : List LanguagePack)
    (strict : Bool) (wanted : List String) :
    (∀ full, (build G packs { strict }).result = .ok full →
      ∃ r, (build G packs { strict, wanted := some wanted }).result = .ok r
        ∧ r.languages = full.languages.filter (· ∈ wanted)
        ∧ ∀ path,
          (∀ l, full.forPath path = .ok l → l.name ∈ wanted →
            r.forPath path = .ok l)
          ∧ ((∀ l, full.forPath path = .ok l → l.name ∉ wanted) →
            r.forPath path = .error (.unsupportedPath path)))
    ∧ ∃ (names : List String) (rest : List Event),
      (build G packs { strict, wanted := some wanted }).events
        = names.map unknownEvent ++ rest
      ∧ names.Pairwise (· < ·)
      ∧ (∀ name, name ∈ names
        ↔ name ∈ wanted ∧ ∀ p ∈ packs, p.name ≠ name)
      ∧ ∀ e ∈ rest, e.name ≠ "unknown_language_requested" := by
  constructor
  · intro full hfull
    obtain ⟨r, hr⟩ := exists_build_some wanted hfull
    refine ⟨r, hr, languages_of_build_some hfull hr,
      fun path => ⟨fun l hl hwanted => ?_, fun hnone => ?_⟩⟩
    · exact (forPath_of_build_some hfull hr).mpr ⟨hl, hwanted⟩
    · refine forPath_eq_error fun l hpath => ?_
      obtain ⟨hl, hwanted⟩ := (forPath_of_build_some hfull hr).mp hpath
      exact hnone l hl hwanted
  · obtain ⟨rest, hevents, hrest⟩ := exists_events_build G packs strict wanted
    exact ⟨_, rest, hevents, pairwise_lt_unknownNames packs wanted,
      fun name => mem_unknownNames, hrest⟩

/-- Packs of which two have one name and two fail. -/
def repeatedPacks : List LanguagePack :=
  mixedPacks ++ [{ name := "go", grammarPackage := "go"
                   grammarModule := "tree_sitter_go", extensions := ["Mod"] }]

/-- Of the wanted names only that of two packs is of use: their paths keep
their languages, those of another language are not supported, and the two
names of no pack are reported. -/
theorem build_restricted_repeatedPacks :
    (∃ full r, (build .installed repeatedPacks {}).result = .ok full
      ∧ full.languages = ["go", "python"]
      ∧ (build .installed repeatedPacks
          { wanted := some ["rust", "go", "ada", "rust"] }).result = .ok r
      ∧ r.languages = ["go"]
      ∧ (∃ l, full.forPath "go.MOD" = .ok l ∧ r.forPath "go.MOD" = .ok l)
      ∧ r.forPath "a.py" = .error (.unsupportedPath "a.py"))
    ∧ ∃ (names : List String) (rest : List Event),
      (build .installed repeatedPacks
        { wanted := some ["rust", "go", "ada", "rust"] }).events
          = names.map unknownEvent ++ rest
      ∧ ∀ name, name ∈ names ↔ name = "ada" ∨ name = "rust" := by
  obtain ⟨hrestricted, names, rest, hevents, -, hnames, -⟩ :=
    build_restricted .installed repeatedPacks false
      ["rust", "go", "ada", "rust"]
  constructor
  · have hnodup :
        (keys (claimed (chosen .installed repeatedPacks none))).Nodup := by
      decide +kernel
    obtain ⟨full, hfull⟩ : ∃ full,
        (build .installed repeatedPacks {}).result = .ok full :=
      exists_build_iff.mpr ⟨nofun, hnodup⟩
    obtain ⟨hbyName, hbyExtension, -⟩ := of_build hfull
    have hlanguages : full.languages = ["go", "python"] := by
      rw [Registry.languages, hbyName]
      decide +kernel
    obtain ⟨r, hr, hrlanguages, hpaths⟩ := hrestricted full hfull
    refine ⟨full, r, hfull, hlanguages, hr, ?_, ?_, ?_⟩
    · rw [hrlanguages, hlanguages]
      decide
    · have hlookup : ∃ l, full.forPath "go.MOD" = .ok l ∧ l.name = "go" := by
        simp only [forPath_eq_ok, hbyExtension]
        exact ⟨_, by rfl, by rfl⟩
      obtain ⟨l, hl, hname⟩ := hlookup
      refine ⟨l, hl, (hpaths "go.MOD").1 l hl ?_⟩
      rw [hname]
      decide
    · refine (hpaths "a.py").2 fun l hl => ?_
      rw [forPath_eq_ok, hbyExtension] at hl
      cases hl
      decide
  · refine ⟨names, rest, hevents, fun name => (hnames name).trans ?_⟩
    constructor
    · rintro ⟨hwanted, hnone⟩
      have hgo : name ≠ "go" := (hnone _ List.mem_cons_self).symm
      simp only [List.mem_cons, List.not_mem_nil, or_false] at hwanted
      rcases hwanted with rfl | rfl | rfl | rfl
      · exact .inr rfl
      · exact absurd rfl hgo
      · exact .inl rfl
      · exact .inr rfl
    · rintro (rfl | rfl)
      · decide
      · decide

end Registry

end Outline
