/-
A pack that fails takes nothing with it.

Building a registry goes over the packs twice. The first time every pack
is made a language or fails, on its own, and the failures are put aside
(`registerAll_lenient`). The second time the languages claim their names
and extensions, one after the other; by then the packs that failed are
gone. What a registry holds is known after every step
(`ofLanguagesBy_eq`): a table of names and a table of extensions, both in
the order of the languages. It ends early only where a language claims an
extension that one before it has, in whatever order each of them claims
its own.

So the registry of many packs is the registry of those that register,
but for the failures it remembers.
-/
import Outline.Language.Registry
import Outline.Proofs.Value.Overlay

namespace Outline

open Keyed

-- ================================================================== packs

namespace LanguagePack

/-- The language of a pack, if there is one. -/
def language? (G : Grammars) (p : LanguagePack) : Option Language :=
  match p.register G with
  | .ok l => some l
  | .error _ => none

/-- Whether a pack can be made a language. -/
def usable (G : Grammars) (p : LanguagePack) : Bool := (p.language? G).isSome

/-- The name of a pack that fails, and why. -/
def failure? (G : Grammars) (p : LanguagePack) :
    Option (String × StructureFault) :=
  match p.register G with
  | .ok _ => none
  | .error e => some (p.name, e)

/-- The extensions that a pack asks for, as they are compared. -/
def claims (p : LanguagePack) : List String := p.extensions.map Text.lower

variable {G : Grammars} {p : LanguagePack} {l : Language}

/-- A language has the name of its pack and its extensions, each once. -/
theorem language_of_register (h : p.register G = .ok l) :
    l.name = p.name ∧ l.extensions = p.claims.eraseDups := by
  unfold register withGrammar at h
  split at h
  next => cases h
  next =>
    split at h
    next => cases h
    next =>
      cases h
      exact ⟨rfl, rfl⟩

/-- The extensions of a language are the claims of its pack. -/
theorem mem_extensions_of_register (h : p.register G = .ok l) {ext : String} :
    ext ∈ l.extensions ↔ ext ∈ p.claims := by
  rw [(language_of_register h).2, List.mem_eraseDups]

theorem nodup_extensions_of_register (h : p.register G = .ok l) :
    l.extensions.Nodup := by
  rw [(language_of_register h).2]
  exact nodup_eraseDups _

theorem language?_eq_some : p.language? G = some l ↔ p.register G = .ok l := by
  unfold language?
  cases p.register G <;> simp

theorem usable_iff : p.usable G = true ↔ ∃ l, p.register G = .ok l := by
  rw [usable, Option.isSome_iff_exists]
  exact exists_congr fun _ => language?_eq_some

theorem failure?_eq_some {name : String} {e : StructureFault} :
    p.failure? G = some (name, e)
      ↔ p.name = name ∧ p.register G = .error e := by
  unfold failure?
  cases p.register G <;> simp

/-- The names of languages are the names of the packs that register. -/
theorem names_of_usable (packs : List LanguagePack) :
    (packs.filterMap (·.language? G)).map (·.name)
      = (packs.filter (·.usable G)).map (·.name) := by
  induction packs with
  | nil => rfl
  | cons p rest ih =>
      rw [List.filterMap_cons, List.filter_cons]
      cases hregister : p.register G with
      | error e => simpa [language?, usable, hregister] using ih
      | ok l =>
          have hname := (language_of_register hregister).1
          simpa [language?, usable, hregister, hname] using ih

/-- Packs that register have no failures. -/
theorem filterMap_failure?_usable (packs : List LanguagePack) :
    (packs.filter (·.usable G)).filterMap (·.failure? G) = [] := by
  refine List.filterMap_eq_nil_iff.mpr fun p hp => ?_
  obtain ⟨l, hl⟩ := usable_iff.mp (List.mem_filter.mp hp).2
  rw [failure?, hl]

/-- Packs that fail have no language. -/
theorem filterMap_language?_usable (packs : List LanguagePack) :
    (packs.filter (·.usable G)).filterMap (·.language? G)
      = packs.filterMap (·.language? G) := by
  rw [List.filterMap_filter]
  refine List.filterMap_congr fun p _ => ?_
  unfold usable
  cases p.language? G <;> rfl

/-- Two packs that can be told apart by every extension. -/
def Apart (p q : LanguagePack) : Prop := p.claims.Disjoint q.claims

instance : DecidableRel Apart := fun p q =>
  inferInstanceAs (Decidable (∀ ext ∈ p.claims, ext ∈ q.claims → False))

end LanguagePack

namespace Registry

variable {G : Grammars} {packs : List LanguagePack}
  {wanted : Option (List String)}
  {done : Progress} {l : Language}
  {languages earlier : List Language} {order : Language → List String}
  {failures : List (String × StructureFault)}

-- ============================================================= the packs

/-- A new name is put at the end. -/
theorem put_of_not_mem {α : Type} {name : String} {a : α}
    {table : List (String × α)} (h : name ∉ keys table) :
    put name a table = table ++ [(name, a)] := by
  induction table with
  | nil => rfl
  | cons entry rest ih =>
      obtain ⟨other, b⟩ := entry
      rw [keys, List.map_cons, List.mem_cons, not_or] at h
      rw [put, if_neg (Ne.symm h.1), ih h.2, List.cons_append]

/-- A lenient build has the languages of the packs that register, and the
failures of those that do not. -/
theorem registerAll_lenient (done : Progress)
    (hnames : (keys done.failures ++ packs.map (·.name)).Nodup) :
    (registerAll G false done packs).result = .ok {
      languages := done.languages ++ packs.filterMap (·.language? G)
      failures := done.failures ++ packs.filterMap (·.failure? G) } := by
  induction packs generalizing done with
  | nil => simp [registerAll, Logged.silent]
  | cons p rest ih =>
      rw [registerAll]
      cases hregister : p.register G with
      | ok l =>
          have hrest : (keys done.failures ++ rest.map (·.name)).Nodup :=
            hnames.sublist (by simp)
          have := ih { done with
            languages := done.languages ++ [l] } hrest
          simpa [LanguagePack.language?, LanguagePack.failure?, hregister]
            using this
      | error e =>
          -- the name is new among the failures, so it goes to their end
          have hnew : p.name ∉ keys done.failures := by
            intro hmem
            exact (List.nodup_append.mp hnames).2.2 _ hmem _
              List.mem_cons_self rfl
          have hrest : (keys (done.failures ++ [(p.name, e)])
              ++ rest.map (·.name)).Nodup := by
            simpa [keys] using hnames
          have := ih { done with
            failures := done.failures ++ [(p.name, e)] } hrest
          simpa [LanguagePack.language?, LanguagePack.failure?, hregister,
            put_of_not_mem hnew] using this

/-- A strict build ends with the first pack that fails. -/
theorem registerAll_strict_error {before after : List LanguagePack}
    {p : LanguagePack} {e : StructureFault}
    (hbefore : ∀ q ∈ before, q.usable G = true)
    (hp : p.register G = .error e) :
    (registerAll G true done (before ++ p :: after)).result = .error e := by
  induction before generalizing done with
  | nil => simp [registerAll, hp, Logged.silent]
  | cons q before ih =>
      obtain ⟨l, hl⟩ :=
        LanguagePack.usable_iff.mp (hbefore q List.mem_cons_self)
      rw [List.cons_append, registerAll]
      simp only [hl]
      exact ih fun q hq => hbefore q (List.mem_cons_of_mem _ hq)

/-- Where no pack fails it does not matter whether a build is strict. -/
theorem registerAll_strict (h : ∀ p ∈ packs, p.usable G = true) :
    registerAll G true done packs = registerAll G false done packs := by
  induction packs generalizing done with
  | nil => rfl
  | cons p rest ih =>
      obtain ⟨l, hl⟩ := LanguagePack.usable_iff.mp (h p List.mem_cons_self)
      rw [registerAll, registerAll]
      simp only [hl]
      exact ih fun p hp => h p (List.mem_cons_of_mem _ hp)

-- ========================================================= the languages

/-- Adds a language that claims its extensions in this order. -/
def addBy (order : Language → List String) (r : Registry) (l : Language) :
    Except StructureFault Registry :=
  match claim l (order l) r.byExtension with
  | .error e => .error e
  | .ok table =>
    .ok { r with byName := put l.name l r.byName, byExtension := table }

/-- The registry of languages that claim their extensions in this order. -/
def ofLanguagesBy (order : Language → List String)
    (languages : List Language) (failures : List (String × StructureFault)) :
    Except StructureFault Registry :=
  languages.foldlM (addBy order) { failures := failures }

/-- An order goes through the extensions of a language, each once. -/
structure Orders (order : Language → List String) (l : Language) : Prop where
  nodup : (order l).Nodup
  mem_iff : ∀ ext, ext ∈ order l ↔ ext ∈ l.extensions

/-- The registry of languages that have claimed their names and their
extensions, in this order. -/
def tablesBy (order : Language → List String) (languages : List Language)
    (failures : List (String × StructureFault)) : Registry :=
  { byName := languages.map fun l => (l.name, l)
    byExtension := languages.flatMap fun l => (order l).map (·, l)
    failures := failures }

/-- The registry of languages that have claimed their names and
extensions. -/
def tables (languages : List Language)
    (failures : List (String × StructureFault)) : Registry :=
  tablesBy (·.extensions) languages failures

theorem mem_byExtension {ext : String} {owner : Language} :
    (ext, owner) ∈ (tablesBy order languages failures).byExtension
      ↔ owner ∈ languages ∧ ext ∈ order owner := by
  simp [tablesBy]

theorem mem_keys_byExtension {ext : String} :
    ext ∈ keys (tablesBy order languages failures).byExtension
      ↔ ∃ owner ∈ languages, ext ∈ order owner := by
  simp only [keys, List.mem_map, Prod.exists, mem_byExtension]
  simp

theorem languages_tablesBy :
    (tablesBy order languages failures).languages
      = languages.map (·.name) := by
  rw [Registry.languages, tablesBy, List.map_map]
  rfl

/-- Two languages can be told apart by every extension. -/
def Apart (a b : Language) : Prop := a.extensions.Disjoint b.extensions

/-- Extensions that nobody has are claimed, one after the other. -/
theorem claim_eq_ok {exts : List String} {table : List (String × Language)}
    (hnodup : exts.Nodup) (hnew : ∀ ext ∈ exts, ext ∉ keys table) :
    claim l exts table = .ok (table ++ exts.map (·, l)) := by
  induction exts generalizing table with
  | nil => simp [claim]
  | cons ext rest ih =>
      obtain ⟨hext, hrest⟩ := List.nodup_cons.mp hnodup
      obtain ⟨hnone, hothers⟩ := List.forall_mem_cons.mp hnew
      rw [claim, lookup_eq_none_iff.mpr hnone]
      dsimp only
      rw [ih hrest, List.append_assoc]
      · rfl
      · intro other hother
        rw [keys, List.map_append, List.mem_append, not_or]
        refine ⟨hothers other hother, ?_⟩
        rw [List.map_singleton, List.mem_singleton]
        rintro rfl
        exact hext hother

/-- The first extension that somebody has ends the claim. -/
theorem claim_eq_error {exts : List String} {table : List (String × Language)}
    (hnodup : exts.Nodup) (htaken : ∃ ext ∈ exts, ext ∈ keys table) :
    ∃ ext owner, ext ∈ exts ∧ (ext, owner) ∈ table
      ∧ claim l exts table = .error (.extensionTaken ext owner.name l.name) := by
  induction exts generalizing table with
  | nil =>
      obtain ⟨ext, hext, -⟩ := htaken
      cases hext
  | cons ext rest ih =>
      obtain ⟨hext, hrest⟩ := List.nodup_cons.mp hnodup
      rw [claim]
      cases hlookup : table.lookup ext with
      | some owner =>
          obtain ⟨_, _, rfl, -⟩ := List.lookup_eq_some_iff.mp hlookup
          exact ⟨ext, owner, List.mem_cons_self, by simp, rfl⟩
      | none =>
          -- what is claimed now is not among the extensions to come
          obtain ⟨other, hother, htaken⟩ := htaken
          have hne : other ≠ ext := by
            rintro rfl
            exact lookup_eq_none_iff.mp hlookup htaken
          have hother := (List.mem_cons.mp hother).resolve_left hne
          have htaken : other ∈ keys (table ++ [(ext, l)]) := by
            rw [keys, List.map_append]
            exact List.mem_append_left _ htaken
          obtain ⟨found, owner, hfound, howner, hclaim⟩ :=
            ih hrest ⟨other, hother, htaken⟩
          refine ⟨found, owner, List.mem_cons_of_mem _ hfound, ?_, hclaim⟩
          refine (List.mem_append.mp howner).resolve_right fun hlast => ?_
          cases List.mem_singleton.mp hlast
          exact hext hfound

/-- One language more: it is added if it is apart from all before it, and
otherwise an extension is taken. -/
theorem addBy_tablesBy (failures : List (String × StructureFault))
    (hname : l.name ∉ earlier.map (·.name)) (horder : Orders order l)
    (hearlier : ∀ a ∈ earlier, Orders order a) :
    ((∀ a ∈ earlier, Apart a l)
      ∧ (tablesBy order earlier failures).addBy order l
        = .ok (tablesBy order (earlier ++ [l]) failures))
    ∨ ∃ owner ∈ earlier, ∃ ext ∈ owner.extensions, ext ∈ l.extensions
      ∧ (tablesBy order earlier failures).addBy order l
        = .error (.extensionTaken ext owner.name l.name) := by
  unfold addBy
  by_cases htaken : ∃ ext ∈ order l,
      ext ∈ keys (tablesBy order earlier failures).byExtension
  · obtain ⟨ext, owner, hext, howner, hclaim⟩ :=
      claim_eq_error (l := l) horder.nodup htaken
    obtain ⟨hmem, hown⟩ := mem_byExtension.mp howner
    exact .inr ⟨owner, hmem, ext, ((hearlier owner hmem).mem_iff ext).mp hown,
      (horder.mem_iff ext).mp hext, by rw [hclaim]⟩
  · have hnew : ∀ ext ∈ order l,
        ext ∉ keys (tablesBy order earlier failures).byExtension :=
      fun ext hext hmem => htaken ⟨ext, hext, hmem⟩
    refine .inl ⟨fun a ha ext hown hext => ?_, ?_⟩
    · exact hnew ext ((horder.mem_iff ext).mpr hext)
        (mem_keys_byExtension.mpr
          ⟨a, ha, ((hearlier a ha).mem_iff ext).mpr hown⟩)
    · have hbyName :
          l.name ∉ keys (tablesBy order earlier failures).byName := by
        rw [← languages_tablesBy] at hname
        exact hname
      rw [claim_eq_ok horder.nodup hnew]
      simp only [put_of_not_mem hbyName]
      simp [tablesBy]

/-- Languages in a row: they are all added if each two of them are apart,
and otherwise some two of them meet at an extension. -/
theorem foldlM_addBy_tablesBy (earlier : List Language)
    (failures : List (String × StructureFault))
    (hnames : ((earlier ++ languages).map (·.name)).Nodup)
    (horder : ∀ l ∈ earlier ++ languages, Orders order l)
    (hapart : earlier.Pairwise Apart) :
    ((earlier ++ languages).Pairwise Apart
      ∧ languages.foldlM (addBy order) (tablesBy order earlier failures)
        = .ok (tablesBy order (earlier ++ languages) failures))
    ∨ ∃ first second ext, [first, second].Sublist (earlier ++ languages)
      ∧ ext ∈ first.extensions ∧ ext ∈ second.extensions
      ∧ languages.foldlM (addBy order) (tablesBy order earlier failures)
        = .error (.extensionTaken ext first.name second.name) := by
  induction languages generalizing earlier with
  | nil =>
      rw [List.append_nil]
      exact .inl ⟨hapart, rfl⟩
  | cons l rest ih =>
      have hname : l.name ∉ earlier.map (·.name) := by
        rw [List.map_append, List.nodup_append] at hnames
        exact fun hmem => hnames.2.2 _ hmem _ List.mem_cons_self rfl
      rw [List.foldlM_cons]
      rcases addBy_tablesBy failures hname (horder l (by simp))
          (fun a ha => horder a (List.mem_append_left _ ha)) with
        ⟨hnew, hadd⟩ | ⟨owner, howner, ext, hown, hext, hadd⟩
      · rw [hadd, List.append_cons]
        refine ih _ (by rwa [← List.append_cons])
          (by rwa [← List.append_cons]) ?_
        rw [List.pairwise_append]
        refine ⟨hapart, List.pairwise_singleton .., fun a ha b hb => ?_⟩
        rw [List.mem_singleton.mp hb]
        exact hnew a ha
      · rw [hadd]
        refine .inr ⟨owner, l, ext, ?_, hown, hext, rfl⟩
        exact (List.singleton_sublist.mpr howner).append
          (List.singleton_sublist.mpr List.mem_cons_self)

/-- The registry of languages holds them all, or an earlier and a later one
meet at an extension; the order in which they claim their extensions does
not decide which. -/
theorem ofLanguagesBy_eq (failures : List (String × StructureFault))
    (hnames : (languages.map (·.name)).Nodup)
    (horder : ∀ l ∈ languages, Orders order l) :
    (languages.Pairwise Apart ∧ ofLanguagesBy order languages failures
        = .ok (tablesBy order languages failures))
    ∨ (¬languages.Pairwise Apart
      ∧ ∃ first second ext, [first, second].Sublist languages
        ∧ ext ∈ first.extensions ∧ ext ∈ second.extensions
        ∧ ofLanguagesBy order languages failures
          = .error (.extensionTaken ext first.name second.name)) := by
  refine (foldlM_addBy_tablesBy [] failures hnames horder .nil).imp id ?_
  rintro ⟨first, second, ext, hsub, hfirst, hsecond, herror⟩
  refine ⟨fun hapart => ?_, first, second, ext, hsub, hfirst, hsecond,
    herror⟩
  exact List.pairwise_iff_forall_sublist.mp hapart hsub hfirst hsecond

/-- The registry of languages holds them all, or two of them meet at an
extension. -/
theorem ofLanguages_eq (failures : List (String × StructureFault))
    (hnames : (languages.map (·.name)).Nodup)
    (hnodup : ∀ l ∈ languages, l.extensions.Nodup) :
    (languages.Pairwise Apart
      ∧ ofLanguages languages failures = .ok (tables languages failures))
    ∨ (¬languages.Pairwise Apart
      ∧ ∃ ext, ∃ first ∈ languages, ∃ second ∈ languages,
        ext ∈ first.extensions ∧ ext ∈ second.extensions
        ∧ ofLanguages languages failures
          = .error (.extensionTaken ext first.name second.name)) := by
  have horder : ∀ l ∈ languages, Orders (·.extensions) l := fun l hl =>
    ⟨hnodup l hl, fun _ => Iff.rfl⟩
  refine (ofLanguagesBy_eq failures hnames horder).imp id ?_
  rintro ⟨hmeet, first, second, ext, hsub, hfirst, hsecond, herror⟩
  exact ⟨hmeet, ext, first, hsub.subset (by simp), second,
    hsub.subset (by simp), hfirst, hsecond, herror⟩

/-- Failures are remembered and play no other part. -/
theorem ofLanguages_failures (languages : List Language)
    (failures : List (String × StructureFault)) :
    ofLanguages languages failures
      = (ofLanguages languages []).map
          fun r => { r with failures := failures } := by
  have hadd : ∀ (r : Registry) l, ({ r with failures := failures } : Registry).add l
      = (r.add l).map fun r => { r with failures := failures } := by
    intro r l
    unfold add
    dsimp only
    cases claim l l.extensions r.byExtension <;> rfl
  have hfold : ∀ r : Registry,
      languages.foldlM add ({ r with failures := failures } : Registry)
        = (languages.foldlM add r).map
            fun r => { r with failures := failures } := by
    induction languages with
    | nil => exact fun r => rfl
    | cons l rest ih =>
        intro r
        rw [List.foldlM_cons, List.foldlM_cons, hadd]
        cases r.add l with
        | error e => rfl
        | ok r => exact ih r
  exact hfold {}

-- ============================================================== the build

/-- The packs that are wanted and register, in order. -/
def usablePacks (G : Grammars) (packs : List LanguagePack)
    (wanted : Option (List String)) : List LanguagePack :=
  (selectPacks packs wanted).filter (·.usable G)

theorem nodup_selectPacks (wanted : Option (List String))
    (hnames : (packs.map (·.name)).Nodup) :
    ((selectPacks packs wanted).map (·.name)).Nodup := by
  cases wanted with
  | none => exact hnames
  | some names => exact hnames.sublist (List.filter_sublist.map _)

/-- A lenient build puts the languages of the packs together. -/
theorem build_lenient (wanted : Option (List String))
    (hnames : (packs.map (·.name)).Nodup) :
    (build G packs { wanted }).result
      = ofLanguages ((selectPacks packs wanted).filterMap (·.language? G))
          ((selectPacks packs wanted).filterMap (·.failure? G)) := by
  have hregister := registerAll_lenient (G := G) {}
    (nodup_selectPacks wanted hnames)
  unfold build
  dsimp only
  rw [hregister]
  simp only [List.nil_append]
  cases ofLanguages ((selectPacks packs wanted).filterMap (·.language? G))
    ((selectPacks packs wanted).filterMap (·.failure? G)) <;> rfl

/-- The registry of many packs is that of the packs that register, but
for the failures. -/
theorem build_usablePacks (wanted : Option (List String))
    (hnames : (packs.map (·.name)).Nodup) :
    (build G (usablePacks G packs wanted) {}).result
      = ofLanguages
          ((selectPacks packs wanted).filterMap (·.language? G)) [] := by
  have husable : ((usablePacks G packs wanted).map (·.name)).Nodup :=
    (nodup_selectPacks wanted hnames).sublist (List.filter_sublist.map _)
  rw [build_lenient none husable, selectPacks, usablePacks,
    LanguagePack.filterMap_language?_usable,
    LanguagePack.filterMap_failure?_usable]

/-- The languages of packs are apart if the packs that register are. -/
theorem pairwise_apart_iff (packs : List LanguagePack) :
    (packs.filterMap (·.language? G)).Pairwise Apart
      ↔ (packs.filter (·.usable G)).Pairwise LanguagePack.Apart := by
  rw [← LanguagePack.filterMap_language?_usable, List.pairwise_filterMap]
  refine List.Pairwise.iff_of_mem fun {p q} hp hq => ?_
  obtain ⟨a, ha⟩ := LanguagePack.usable_iff.mp (List.mem_filter.mp hp).2
  obtain ⟨b, hb⟩ := LanguagePack.usable_iff.mp (List.mem_filter.mp hq).2
  have hp := LanguagePack.language?_eq_some.mpr ha
  have hq := LanguagePack.language?_eq_some.mpr hb
  simp only [hp, hq, Option.some.injEq, forall_eq', Apart, List.Disjoint,
    (LanguagePack.language_of_register ha).2,
    (LanguagePack.language_of_register hb).2, List.mem_eraseDups]
  rfl

/-- A language of packs is that of one which registers. -/
theorem exists_pack_of_language
    (h : l ∈ (selectPacks packs wanted).filterMap (·.language? G)) :
    ∃ p ∈ usablePacks G packs wanted, l.name = p.name
      ∧ ∀ ext, ext ∈ l.extensions ↔ ext ∈ p.claims := by
  obtain ⟨p, hp, hlanguage⟩ := List.mem_filterMap.mp h
  have hregister := LanguagePack.language?_eq_some.mp hlanguage
  refine ⟨p, List.mem_filter.mpr ⟨hp, ?_⟩,
    (LanguagePack.language_of_register hregister).1, fun ext => ?_⟩
  · exact LanguagePack.usable_iff.mpr ⟨l, hregister⟩
  · exact LanguagePack.mem_extensions_of_register hregister

/-- No language asks for an extension twice. -/
theorem nodup_extensions_of_mem (h : l ∈ packs.filterMap (·.language? G)) :
    l.extensions.Nodup := by
  obtain ⟨p, -, hlanguage⟩ := List.mem_filterMap.mp h
  exact LanguagePack.nodup_extensions_of_register
    (LanguagePack.language?_eq_some.mp hlanguage)

/-- What is remembered under a name is how the pack of that name
failed. -/
theorem lookup_failures {name : String} {e : StructureFault}
    (hnames : (packs.map (·.name)).Nodup) :
    (packs.filterMap (·.failure? G)).lookup name = some e
      ↔ ∃ p ∈ packs, p.name = name ∧ p.register G = .error e := by
  have hkeys : keys (packs.filterMap (·.failure? G))
      = (packs.filter fun p => !p.usable G).map (·.name) := by
    induction packs with
    | nil => rfl
    | cons p rest ih =>
        have ih := ih (List.nodup_cons.mp hnames).2
        rw [List.filterMap_cons, List.filter_cons]
        cases hregister : p.register G <;>
          simpa [keys, LanguagePack.failure?, LanguagePack.usable,
            LanguagePack.language?, hregister] using ih
  rw [lookup_eq_some_iff, List.mem_filterMap]
  · exact exists_congr fun p => and_congr_right fun _ =>
      LanguagePack.failure?_eq_some
  · rw [hkeys]
    exact hnames.sublist (List.filter_sublist.map _)

/-- The languages of a registry are the packs that register. -/
theorem languages_tables (packs : List LanguagePack)
    (failures : List (String × StructureFault)) :
    (tables (packs.filterMap (·.language? G)) failures).languages
      = (packs.filter (·.usable G)).map (·.name) := by
  rw [← LanguagePack.names_of_usable]
  exact languages_tablesBy

/-- A pack that registers has a name which none that fails has. -/
theorem lookup_failures_of_usable {name : String}
    (hnames : (packs.map (·.name)).Nodup)
    (hname : name ∈ (packs.filter (·.usable G)).map (·.name)) :
    (packs.filterMap (·.failure? G)).lookup name = none := by
  rw [Option.eq_none_iff_forall_ne_some]
  intro e he
  obtain ⟨p, hp, hpname, hfailed⟩ := (lookup_failures hnames).mp he
  obtain ⟨q, hq, hqname⟩ := List.mem_map.mp hname
  obtain ⟨hq, hqusable⟩ := List.mem_filter.mp hq
  obtain ⟨l, hregister⟩ := LanguagePack.usable_iff.mp hqusable
  have hsame : p = q :=
    List.inj_on_of_nodup_map hnames hp hq (hpname.trans hqname.symm)
  rw [← hsame, hfailed] at hregister
  cases hregister

/-- A pack that fails takes away nothing but itself. If two packs that
register claim one extension, the build fails with it, and so does that
of the packs that register. Otherwise the registry has these as its
languages, in order, has the others as its failures, each with its own
cause, and finds the same languages as if there were no others. A strict
build fails with the first pack that does, and where none does it is the
same build. -/
theorem build_leaves_out_failing_packs (G : Grammars)
    (packs : List LanguagePack) (wanted : Option (List String))
    (hnames : (packs.map (·.name)).Nodup) :
    ((¬(usablePacks G packs wanted).Pairwise LanguagePack.Apart
        ∧ ∃ ext, ∃ p ∈ usablePacks G packs wanted,
          ∃ q ∈ usablePacks G packs wanted, ext ∈ p.claims ∧ ext ∈ q.claims
          ∧ (build G packs { wanted }).result
            = .error (.extensionTaken ext p.name q.name)
          ∧ (build G (usablePacks G packs wanted) {}).result
            = .error (.extensionTaken ext p.name q.name))
      ∨ ((usablePacks G packs wanted).Pairwise LanguagePack.Apart
        ∧ ∃ r only, (build G packs { wanted }).result = .ok r
          ∧ (build G (usablePacks G packs wanted) {}).result = .ok only
          ∧ r.languages = (usablePacks G packs wanted).map (·.name)
          ∧ (∀ name e, r.failures.lookup name = some e
            ↔ ∃ p ∈ selectPacks packs wanted,
              p.name = name ∧ p.register G = .error e)
          ∧ (∀ name ∈ r.languages, r.failures.lookup name = none)
          ∧ (∀ path, r.forPath path = only.forPath path
            ∧ r.supports path = only.supports path)
          ∧ (∀ name, r.forLanguage name = only.forLanguage name)
          ∧ r.extensions = only.extensions))
    ∧ (∀ before p after e, selectPacks packs wanted = before ++ p :: after →
      (∀ q ∈ before, q.usable G = true) → p.register G = .error e →
      (build G packs { strict := true, wanted }).result = .error e)
    ∧ ((∀ p ∈ selectPacks packs wanted, p.usable G = true) →
      build G packs { strict := true, wanted } = build G packs { wanted }) := by
  have hselected := nodup_selectPacks wanted hnames
  have husable : ((usablePacks G packs wanted).map (·.name)).Nodup :=
    hselected.sublist (List.filter_sublist.map _)
  refine ⟨?_, ?_, ?_⟩
  · have hlenient := build_lenient (G := G) wanted hnames
    have honly := build_usablePacks (G := G) wanted hnames
    rw [ofLanguages_failures] at hlenient
    rcases ofLanguages_eq []
        (by rw [LanguagePack.names_of_usable]; exact husable)
        (fun l hl => nodup_extensions_of_mem hl) with
      ⟨hapart, hok⟩ | ⟨hmeet, ext, first, hfirst, second, hsecond, hf, hs,
        herror⟩
    · rw [hok] at hlenient honly
      have hlanguages := languages_tables (G := G) (selectPacks packs wanted)
        ((selectPacks packs wanted).filterMap (·.failure? G))
      refine .inr ⟨(pairwise_apart_iff _).mp hapart, _, _, hlenient, honly,
        hlanguages, fun name e => lookup_failures hselected, ?_,
        fun path => ⟨rfl, rfl⟩, fun name => rfl, rfl⟩
      intro name hname
      refine lookup_failures_of_usable hselected ?_
      rw [← hlanguages]
      exact hname
    · rw [herror] at hlenient honly
      obtain ⟨p, hp, hpname, hpclaims⟩ := exists_pack_of_language hfirst
      obtain ⟨q, hq, hqname, hqclaims⟩ := exists_pack_of_language hsecond
      rw [hpname, hqname] at hlenient honly
      exact .inl ⟨fun h => hmeet ((pairwise_apart_iff _).mpr h), ext, p, hp,
        q, hq, (hpclaims ext).mp hf, (hqclaims ext).mp hs, hlenient, honly⟩
  · intro before p after e hsplit hbefore hp
    unfold build
    dsimp only
    rw [hsplit, registerAll_strict_error hbefore hp]
  · intro hall
    unfold build
    dsimp only
    rw [registerAll_strict hall]

/-- Two packs that register, and two that fail and claim an extension
of the first. -/
def mixedPacks : List LanguagePack :=
  [{ name := "go", grammarPackage := "go", grammarModule := "tree_sitter_go"
     extensions := ["go"] },
    { name := "broken", grammarPackage := "c", grammarModule := "tree_sitter_c"
      extensions := ["GO"], query := .text "(" .unrestricted },
    { name := "absent", grammarPackage := "d", grammarModule := "grammar_of_d"
      extensions := ["go"] },
    { name := "python", grammarPackage := "python"
      grammarModule := "tree_sitter_python", extensions := ["py"] }]

/-- The two packs that fail cost nobody an extension, and a strict build
fails with the first of them. -/
theorem build_leaves_out_mixedPacks :
    (mixedPacks.map (·.name)).Nodup
    ∧ (∃ r, (build .installed mixedPacks {}).result = .ok r
      ∧ r.languages = ["go", "python"]
      ∧ r.failures.lookup "absent"
        = some (.grammarUnavailable "absent" "grammar_of_d"))
    ∧ (build .installed mixedPacks { strict := true }).result
      = .error (.queryRejected "broken" "Unexpected EOF") := by
  have hnames : (mixedPacks.map (·.name)).Nodup := by decide
  obtain ⟨hlenient, hstrict, -⟩ :=
    build_leaves_out_failing_packs .installed mixedPacks none hnames
  refine ⟨hnames, ?_, ?_⟩
  · rcases hlenient with ⟨hmeet, -⟩ | ⟨-, r, _, hr, -, hlanguages, hfailures, -⟩
    · exact absurd (by decide +kernel) hmeet
    · refine ⟨r, hr, hlanguages.trans (by decide +kernel), ?_⟩
      refine (hfailures _ _).mpr ⟨_, List.mem_of_getElem? (i := 2) rfl, rfl, ?_⟩
      rfl
  · exact hstrict [_] _ [_, _] _ rfl (by decide +kernel) rfl

end Registry

end Outline
