/-
The last suffix of the last component.

A path finds its language by its extension alone, and the extension is read
off the last component that is left when empty ones and single dots are
dropped. Slashes separate components (`components_append`), so nothing
before the last component matters, and neither do slashes and single dots
after it. Within the component everything up to the last dot is passed over
(`suffixOf_append`).

What is left is lower-cased. No character becomes a dot or a slash that was
none (`Text.mem_of_mem_lowerAfter`), so there is still no dot in it, and a
dot in front of it, which has no case and hides none, could be lower-cased
along with it (`Text.lower_dot`).
-/
import Outline.Proofs.Language.Restriction
import Outline.Proofs.Path
import Outline.Proofs.Text.Lower

namespace Outline

open Keyed

-- ============================================================= lower case

namespace Text

/-- Only a plain small letter is the lower-case form of another
character as well, among the plain characters. -/
theorem eq_of_simpleLower_eq {c d : Char} (hplain : isPlain c = true)
    (hletter : c.isLower = false) (h : simpleLower d = c) : d = c := by
  cases hd : isPlain d with
  | true =>
      have hall : ∀ n < 0x80, (simpleLower (Char.ofNat n)).isLower = true
          ∨ simpleLower (Char.ofNat n) = Char.ofNat n := by
        decide +kernel
      have hself := hall d.toNat (by simpa [isPlain] using hd)
      rw [Char.ofNat_toNat, h, hletter] at hself
      exact (hself.resolve_left Bool.false_ne_true).symm
  | false =>
      by_cases hkelvin : d.toNat = 0x212A
      · -- the Kelvin sign becomes a letter
        have hk : simpleLower d = 'k' := by
          rw [← Char.ofNat_toNat d, hkelvin]
          decide +kernel
        rw [← h, hk] at hletter
        cases hletter
      · have hbeyond := (simpleLower_beyond hd hkelvin).1
        rw [h] at hbeyond
        rw [isPlain, decide_eq_true_eq] at hplain
        omega

/-- Lower-casing makes no plain character other than small letters. -/
theorem mem_of_mem_lowerAfter {before cs : List Char} {c : Char}
    (hplain : isPlain c = true) (hletter : c.isLower = false)
    (h : c ∈ lowerAfter before cs) : c ∈ cs := by
  induction cs generalizing before with
  | nil => cases h
  | cons d rest ih =>
      rw [lowerAfter] at h
      rcases List.mem_append.mp h with h | h
      · split at h
        next =>
          -- neither form of a sigma is plain
          rw [List.mem_singleton] at h
          split at h <;> subst h <;> cases hplain
        next =>
          split at h
          next =>
            rcases List.mem_cons.mp h with rfl | h
            · cases hletter
            · rw [List.mem_singleton.mp h] at hplain
              cases hplain
          next =>
            have hform := (List.mem_singleton.mp h).symm
            rw [eq_of_simpleLower_eq hplain hletter hform]
            exact List.mem_cons_self
      · exact List.mem_cons_of_mem d (ih h)

/-- Nothing else has nothing as its lower-case form. -/
theorem lower_eq_empty_iff {s : String} : lower s = "" ↔ s = "" := by
  have hchars : lowerAfter [] s.toList = [] ↔ s.toList = [] := by
    cases s.toList with
    | nil => exact iff_of_true rfl rfl
    | cons c rest =>
        refine iff_of_false (fun h => ?_) nofun
        rw [lowerAfter, List.append_eq_nil_iff] at h
        obtain ⟨hhere, -⟩ := h
        split at hhere
        next => cases hhere
        next => split at hhere <;> cases hhere
  rw [lower, String.ofList_eq_empty_iff, hchars, String.toList_eq_nil_iff]

theorem nextIsCased_append_dot (cs : List Char) :
    nextIsCased (cs ++ ['.']) = nextIsCased cs := by
  induction cs with
  | nil => decide +kernel
  | cons c rest ih => rw [List.cons_append, nextIsCased, nextIsCased, ih]

/-- A dot far before a text has no influence on it. -/
theorem lowerAfter_append_dot (before cs : List Char) :
    lowerAfter (before ++ ['.']) cs = lowerAfter before cs := by
  induction cs generalizing before with
  | nil => rfl
  | cons c rest ih =>
      rw [lowerAfter, lowerAfter, nextIsCased_append_dot, ← ih (c :: before)]
      rfl

/-- A dot and what comes after it are lower-cased one by one. -/
theorem lower_dot (s : String) : lower ("." ++ s) = "." ++ lower s := by
  have hchars : ("." ++ s).toList = '.' :: s.toList := String.toList_append
  have hdot : lowerAfter [] ('.' :: s.toList)
      = '.' :: lowerAfter [] s.toList := by
    rw [lowerAfter]
    exact congrArg ('.' :: ·) (lowerAfter_append_dot [] s.toList)
  rw [lower, lower, hchars, hdot, ← List.singleton_append,
    String.ofList_append]

end Text

-- ================================================================== names

section Names

variable {name stem ending : List Char} {c : Char}

/-- The characters after the last dot. -/
theorem takeWhile_reverse (h : '.' ∉ ending) :
    ((stem ++ '.' :: ending).reverse.takeWhile (· != '.')).reverse
      = ending := by
  have hending : ∀ c ∈ ending.reverse, (c != '.') = true := by
    intro c hc
    rw [bne_iff_ne]
    rintro rfl
    exact h (List.mem_reverse.mp hc)
  rw [List.reverse_append, List.reverse_cons, List.append_assoc,
    List.takeWhile_append_of_pos hending, List.singleton_append,
    List.takeWhile_cons_of_neg (by simp), List.append_nil,
    List.reverse_reverse]

/-- A dot that is the last one has the suffix after it, unless nothing
comes before it. -/
theorem suffixOf_append (h : '.' ∉ ending) :
    suffixOf (stem ++ '.' :: ending) = if stem = [] then [] else ending := by
  have hdot : (stem ++ '.' :: ending).contains '.' = true := by simp
  have hlength : (stem ++ '.' :: ending).length - ending.length - 1
      = stem.length := by
    rw [List.length_append, List.length_cons]
    omega
  unfold suffixOf
  dsimp only
  rw [takeWhile_reverse h, hlength, hdot, Bool.true_and]
  cases stem with
  | nil => rfl
  | cons c rest => rw [if_neg (List.cons_ne_nil c rest)]; simp

theorem suffixOf_of_not_mem (h : '.' ∉ name) : suffixOf name = [] := by
  have hdot : name.contains '.' = false := by simpa using h
  unfold suffixOf
  rw [hdot]
  rfl

/-- A name with a dot has a last one. -/
theorem exists_last_dot (h : '.' ∈ name) :
    ∃ stem ending, name = stem ++ '.' :: ending ∧ '.' ∉ ending := by
  obtain ⟨after, before, hsplit, hnone⟩ :=
    List.eq_append_cons_of_mem (List.mem_reverse.mpr h)
  refine ⟨before.reverse, after.reverse, ?_, mt List.mem_reverse.mp hnone⟩
  rw [← List.reverse_reverse name, hsplit, List.reverse_append,
    List.reverse_cons, List.append_assoc, List.singleton_append]

/-- A suffix is part of its name and has no dot. -/
theorem mem_suffixOf (h : c ∈ suffixOf name) : c ∈ name ∧ c ≠ '.' := by
  by_cases hdot : '.' ∈ name
  · obtain ⟨stem, ending, rfl, hending⟩ := exists_last_dot hdot
    rw [suffixOf_append hending] at h
    split at h
    next => cases h
    next =>
      refine ⟨List.mem_append_right _ (List.mem_cons_of_mem _ h), ?_⟩
      rintro rfl
      exact hending h
  · rw [suffixOf_of_not_mem hdot] at h
    cases h

/-- There is no suffix where there is no dot, or where the last one is the
first or the last character. -/
theorem suffixOf_eq_nil_iff : suffixOf name = [] ↔ '.' ∉ name
    ∨ (∃ ending, name = '.' :: ending ∧ '.' ∉ ending)
    ∨ ∃ stem, name = stem ++ ['.'] := by
  constructor
  · intro h
    by_cases hdot : '.' ∈ name
    · obtain ⟨stem, ending, rfl, hending⟩ := exists_last_dot hdot
      rw [suffixOf_append hending] at h
      split at h
      next hstem => exact .inr (.inl ⟨ending, by rw [hstem]; rfl, hending⟩)
      next => exact .inr (.inr ⟨stem, by rw [h]⟩)
    · exact .inl hdot
  · rintro (h | ⟨ending, rfl, h⟩ | ⟨stem, rfl⟩)
    · exact suffixOf_of_not_mem h
    · have hfirst : suffixOf ([] ++ '.' :: ending) = _ := suffixOf_append h
      rwa [if_pos rfl] at hfirst
    · rw [suffixOf_append List.not_mem_nil, ite_self]

end Names

-- =================================================================== paths

namespace LexicalPath

/-- Slashes and single dots after them add no component. -/
theorem components_append_join {marks : List String}
    (h : ∀ mark ∈ marks, mark = "/" ∨ mark = "/.") (cs : List Char) :
    components (cs ++ (String.join marks).toList) = components cs := by
  induction marks generalizing cs with
  | nil => rw [String.join_nil, String.toList_empty, List.append_nil]
  | cons mark rest ih =>
      obtain ⟨hmark, hrest⟩ := List.forall_mem_cons.mp h
      have hnothing : components (cs ++ mark.toList) = components cs := by
        rcases hmark with rfl | rfl
        · exact (components_append cs []).trans (List.append_nil _)
        · exact (components_append cs ['.']).trans (List.append_nil _)
      rw [String.join_cons, String.toList_append, ← List.append_assoc,
        ih hrest, hnothing]

/-- A name is its own only component. -/
theorem components_of_name {name : List Char} (hslash : '/' ∉ name)
    (hempty : name ≠ []) (hdot : name ≠ ['.']) :
    components name = [name] := by
  rw [components, List.splitOn_eq_singleton hslash, List.filter_singleton,
    bne_iff_ne.mpr hempty, bne_iff_ne.mpr hdot]
  rfl

end LexicalPath

open LexicalPath

/-- The extension of a path is that of its last component. -/
theorem extensionOf_of_last {path : String} {name : List Char}
    (h : (components path.toList).getLast? = some name) :
    extensionOf path = Text.lower (String.ofList (suffixOf name)) := by
  rw [extensionOf, h]

/-- The extension depends on the components alone. -/
theorem extensionOf_congr {a b : String}
    (h : (components a.toList).getLast? = (components b.toList).getLast?) :
    extensionOf a = extensionOf b := by
  rw [extensionOf, extensionOf, h]

/-- What follows the last dot of a name is its extension, lower-cased. -/
theorem extensionOf_name {stem ending : String} (hstem : stem ≠ "")
    (hname : '/' ∉ stem.toList) (hslash : '/' ∉ ending.toList)
    (hdot : '.' ∉ ending.toList) :
    extensionOf (stem ++ "." ++ ending) = Text.lower ending := by
  have hchars : (stem ++ "." ++ ending).toList
      = stem.toList ++ '.' :: ending.toList := by
    rw [String.toList_append, String.toList_append, List.append_assoc]
    rfl
  have hstem' : stem.toList ≠ [] := mt String.toList_eq_nil_iff.mp hstem
  have hcomponents : components (stem ++ "." ++ ending).toList
      = [stem.toList ++ '.' :: ending.toList] := by
    rw [hchars]
    refine components_of_name ?_ (by simp) (fun heq => ?_)
    · simp [hname, hslash]
    · have hlength := congrArg List.length heq
      have := List.length_pos_iff.mpr hstem'
      simp at hlength
      omega
  have hlast : (components (stem ++ "." ++ ending).toList).getLast?
      = some (stem.toList ++ '.' :: ending.toList) := by
    rw [hcomponents, List.getLast?_singleton]
  rw [extensionOf_of_last hlast, suffixOf_append hdot, if_neg hstem',
    String.ofList_toList]

/-- A path has no extension if it has no component, or the last one has no
dot or has its last dot at one of its ends. -/
theorem extensionOf_eq_empty_iff {path : String} :
    extensionOf path = "" ↔ (ofText path).parts = []
      ∨ ∃ name, (ofText path).parts.getLast? = some name
        ∧ ('.' ∉ name.toList
          ∨ (∃ ending, name = "." ++ ending ∧ '.' ∉ ending.toList)
          ∨ ∃ stem, name = stem ++ ".") := by
  rw [parts_ofText, List.map_eq_nil_iff, List.getLast?_map]
  cases hlast : (components path.toList).getLast? with
  | none =>
      refine iff_of_true ?_ (.inl (List.getLast?_eq_none_iff.mp hlast))
      rw [extensionOf, hlast]
  | some name =>
      have hsome : components path.toList ≠ [] := by
        rintro hnone
        rw [hnone] at hlast
        cases hlast
      rw [extensionOf_of_last hlast, Text.lower_eq_empty_iff,
        String.ofList_eq_empty_iff, suffixOf_eq_nil_iff,
        or_iff_right hsome]
      simp only [Option.map_some, Option.some.injEq, exists_eq_left',
        String.toList_ofList]
      refine or_congr Iff.rfl (or_congr ?_ ?_)
      · constructor
        · rintro ⟨ending, rfl, hdot⟩
          refine ⟨String.ofList ending, ?_, ?_⟩
          · rw [← List.singleton_append, String.ofList_append]
          · rwa [String.toList_ofList]
        · rintro ⟨ending, hname, hdot⟩
          refine ⟨ending.toList, ?_, hdot⟩
          rw [← String.toList_ofList (l := name), hname, String.toList_append]
          rfl
      · constructor
        · rintro ⟨stem, rfl⟩
          exact ⟨String.ofList stem, String.ofList_append⟩
        · rintro ⟨stem, hname⟩
          refine ⟨stem.toList, ?_⟩
          rw [← String.toList_ofList (l := name), hname, String.toList_append]
          rfl

/-- No extension has a dot or a slash. -/
theorem not_mem_extensionOf (path : String) {c : Char}
    (hc : c = '.' ∨ c = '/') : c ∉ (extensionOf path).toList := by
  cases hlast : (components path.toList).getLast? with
  | none => rw [extensionOf, hlast]; exact List.not_mem_nil
  | some name =>
      rw [extensionOf_of_last hlast, Text.lower, String.toList_ofList,
        String.toList_ofList]
      intro hmem
      have hplain : Text.isPlain c = true ∧ c.isLower = false := by
        rcases hc with rfl | rfl <;> decide
      obtain ⟨hname, hdot⟩ :=
        mem_suffixOf (Text.mem_of_mem_lowerAfter hplain.1 hplain.2 hmem)
      rcases hc with rfl | rfl
      · exact hdot rfl
      · have hpart := List.mem_of_mem_filter (List.mem_of_getLast? hlast)
        exact not_mem_of_mem_splitOn hpart hname

-- ================================================================ lookups

namespace Registry

variable {G : Grammars} {packs : List LanguagePack} {options : BuildOptions}
  {r : Registry} {p : LanguagePack} {l : Language}

/-- Two paths that no registry can tell apart. -/
structure SameLanguage (a b : String) : Prop where
  extension : extensionOf a = extensionOf b
  supports : ∀ r : Registry, r.supports a = r.supports b
  forPath : ∀ (r : Registry) l, r.forPath a = .ok l ↔ r.forPath b = .ok l

/-- A registry sees nothing of a path but its extension. -/
theorem SameLanguage.of_extension {a b : String}
    (h : extensionOf a = extensionOf b) : SameLanguage a b := by
  refine ⟨h, fun r => ?_, fun r l => ?_⟩
  · rw [Registry.supports, Registry.supports, h]
  · rw [forPath_eq_ok, forPath_eq_ok, h]

/-- The language of a pack is found by every spelling of its extensions. -/
theorem forPath_of_build {path ext : String}
    (hr : (build G packs options).result = .ok r)
    (hp : p ∈ selectPacks packs options.wanted) (hl : p.register G = .ok l)
    (hext : ext ∈ p.extensions) (hpath : extensionOf path = Text.lower ext) :
    r.forPath path = .ok l := by
  obtain ⟨-, hextensions, hnodup⟩ := of_build hr
  rw [forPath_eq_ok, hpath, lookup_eq_some_iff hnodup, hextensions]
  have hmem : l ∈ chosen G packs options.wanted :=
    List.mem_filterMap.mpr ⟨p, hp, LanguagePack.language?_eq_some.mpr hl⟩
  have hclaim : Text.lower ext ∈ l.extensions :=
    (LanguagePack.mem_extensions_of_register hl).mpr
      (List.mem_map_of_mem hext)
  exact List.mem_flatMap.mpr ⟨l, hmem, List.mem_map_of_mem hclaim⟩

/-- The language of a path depends on the last suffix of its last component
alone. A path and its normal form have the same, and so have a path with a
component and that path with slashes and single dots after it, or below any
other path. What comes after the last dot of a name is lower-cased, with
the dot or without it, and every spelling of an extension of a pack leads
to the language of that pack. A path has no extension if it has no
component, or the last one has no dot or has its last dot at one of its
ends; and no extension has a dot or a slash. -/
theorem extensionOf_last_suffix (path : String) :
    SameLanguage (normalPath path) path
    ∧ ((LexicalPath.ofText path).parts ≠ [] →
      (∀ marks : List String, (∀ mark ∈ marks, mark = "/" ∨ mark = "/.") →
        SameLanguage (path ++ String.join marks) path)
      ∧ ∀ directory, SameLanguage (directory ++ "/" ++ path) path)
    ∧ (∀ stem ending : String, stem ≠ "" → '/' ∉ stem.toList →
      '/' ∉ ending.toList → '.' ∉ ending.toList →
      path = stem ++ "." ++ ending →
      extensionOf path = Text.lower ending
      ∧ Text.lower ("." ++ ending) = "." ++ extensionOf path
      ∧ ∀ G packs options r, (build G packs options).result = .ok r →
        ∀ p ∈ selectPacks packs options.wanted, ∀ l, p.register G = .ok l →
          ∀ ext ∈ p.extensions, Text.lower ending = Text.lower ext →
            r.forPath path = .ok l)
    ∧ (extensionOf path = "" ↔ (LexicalPath.ofText path).parts = []
      ∨ ∃ name, (LexicalPath.ofText path).parts.getLast? = some name
        ∧ ('.' ∉ name.toList
          ∨ (∃ ending, name = "." ++ ending ∧ '.' ∉ ending.toList)
          ∨ ∃ stem, name = stem ++ "."))
    ∧ '.' ∉ (extensionOf path).toList
    ∧ '/' ∉ (extensionOf path).toList := by
  refine ⟨.of_extension (extensionOf_normalPath path), fun hparts => ⟨?_, ?_⟩,
    ?_, extensionOf_eq_empty_iff, not_mem_extensionOf path (.inl rfl),
    not_mem_extensionOf path (.inr rfl)⟩
  · intro marks hmarks
    refine .of_extension (extensionOf_congr ?_)
    rw [String.toList_append, components_append_join hmarks]
  · intro directory
    have hsome : components path.toList ≠ [] :=
      mt List.map_eq_nil_iff.mpr hparts
    have hchars : (directory ++ "/" ++ path).toList
        = directory.toList ++ '/' :: path.toList := by
      rw [String.toList_append, String.toList_append, List.append_assoc]
      rfl
    refine .of_extension (extensionOf_congr ?_)
    rw [hchars, components_append, List.getLast?_append_of_ne_nil _ hsome]
  · intro stem ending hstem hname hslash hdot hpath
    have hextension : extensionOf path = Text.lower ending := by
      rw [hpath, extensionOf_name hstem hname hslash hdot]
    refine ⟨hextension, ?_, fun G packs options r hr p hp l hl ext hext h => ?_⟩
    · rw [hextension, Text.lower_dot]
    · exact forPath_of_build hr hp hl hext (hextension.trans h)

/-- A directory and a hidden name with two dots: the pack is found under a
third spelling of its extension, the directory is not looked at, and
neither is what comes after the name. -/
theorem extensionOf_last_suffix_hidden :
    extensionOf ".a.tar.gO" = "go"
    ∧ extensionOf ("x.py/./" ++ "/" ++ ".a.tar.gO") = "go"
    ∧ extensionOf (".a.tar.gO" ++ String.join ["/", "/.", "/"]) = "go"
    ∧ extensionOf (normalPath ".a.tar.gO") = "go"
    ∧ ∃ r l, (build .installed spelledPacks {}).result = .ok r ∧ l.name = "go"
      ∧ r.forPath ".a.tar.gO" = .ok l := by
  obtain ⟨hnormal, hparts, hname, -⟩ := extensionOf_last_suffix ".a.tar.gO"
  obtain ⟨hmarks, hbelow⟩ := hparts (by decide +kernel)
  obtain ⟨hextension, -, hpacks⟩ := hname ".a.tar" "gO" (by decide)
    (by decide) (by decide) (by decide) (by decide)
  have hgo : extensionOf ".a.tar.gO" = "go" :=
    hextension.trans (by decide +kernel)
  refine ⟨hgo, (hbelow "x.py/./").extension.trans hgo,
    (hmarks ["/", "/.", "/"] (by decide)).extension.trans hgo,
    hnormal.extension.trans hgo, ?_⟩
  obtain ⟨r, hr⟩ : ∃ r, (build .installed spelledPacks {}).result = .ok r :=
    exists_build_iff.mpr ⟨nofun, by decide +kernel⟩
  obtain ⟨l, hl⟩ := LanguagePack.usable_iff.mp
    (show spelledPacks[0].usable .installed = true by decide +kernel)
  refine ⟨r, l, hr, (LanguagePack.language_of_register hl).1, ?_⟩
  exact hpacks _ _ _ r hr _ List.mem_cons_self l hl "Go" List.mem_cons_self
    (by decide +kernel)

end Registry

end Outline
