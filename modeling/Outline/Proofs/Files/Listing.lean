/-
The files that a path stands for.

A path that leads to a directory stands for the files below it that some
language claims, every other path for itself. `Lists` says which files
these are without a word about the search: those that a search comes by,
through directories that can be listed, and whose path leads to a file,
each once, in the lexicographic order of their components
(`sourcesOf_lists`).

The system may refuse to answer on the way. What it does not permit to be
listed is passed over, and so is a path that leads nowhere; every other
refusal ends the search (`Obstructs`), and nothing else does
(`obstructs_of_sourcesOf`).
-/
import Mathlib.Data.List.Lex
import Mathlib.Data.String.Basic
import Outline.Command.Run
import Outline.Proofs.Path
import Outline.Proofs.Value.Overlay

namespace Outline

open Keyed

namespace FileSystem

variable {fs : FileSystem} {p : FilePath} {steps : List String}

-- ================================================================== order

/-- Paths are compared component by component. -/
theorem pathLE_iff {a b : List String} : pathLE a b = true ↔ ¬b < a := by
  induction a generalizing b with
  | nil => simp [pathLE]
  | cons x as ih =>
      cases b with
      | nil => simp [pathLE]
      | cons y bs =>
          rw [pathLE, List.cons_lt_cons_iff]
          by_cases h : x = y
          · subst h
            simp [ih]
          · rw [if_neg h, decide_eq_true_iff, not_or]
            constructor
            · exact fun hlt => ⟨hlt.asymm, fun heq => h heq.1.symm⟩
            · exact fun hnot => (lt_or_gt_of_ne h).resolve_right hnot.1

/-- What stands below a path is listed in strict order. -/
theorem pairwise_lt_below (fs : FileSystem) (p : FilePath) :
    (fs.below p).Pairwise (· < ·) := by
  unfold below
  dsimp only
  generalize List.flatMap _ _ = all
  exact pairwise_lt_mergeSort (fun a b => by rw [pathLE_iff, not_lt]) all

-- ================================================================= search

/-- Something stands under an absolute path, be it a link. -/
def Stands (fs : FileSystem) (p : FilePath) : Prop :=
  (fs.entry? p).isSome = true ∨ (fs.link? p).isSome = true

/-- A search from a place comes by some steps: something stands there, and
every directory on the way is none by a link and can be listed. -/
structure Shows (fs : FileSystem) (place : FilePath) (steps : List String) :
    Prop where
  stands : fs.Stands (place ++ steps)
  searched : ∀ way name more, steps = way ++ name :: more →
    fs.entry? (place ++ way) = some .directory
      ∧ fs.link? (place ++ way) = none
      ∧ fs.refusal? .list (place ++ way) = none

theorem isSome_lookup_iff {β : Type} {l : List (FilePath × β)} :
    (l.lookup p).isSome = true ↔ p ∈ l.map (·.1) := by
  rw [Option.isSome_iff_ne_none, ne_eq, List.lookup_eq_none_iff, List.mem_map]
  constructor
  · intro h
    by_contra hnone
    refine h fun entry hentry => ?_
    rw [bne_iff_ne]
    exact fun heq => hnone ⟨entry, hentry, heq.symm⟩
  · rintro ⟨entry, hentry, rfl⟩ h
    exact bne_iff_ne.mp (h entry hentry) rfl

theorem hasBelow_iff : fs.hasBelow p = true
    ↔ ∃ more, more ≠ [] ∧ p ++ more ∈ fs.names := by
  rw [hasBelow, List.any_eq_true]
  constructor
  · rintro ⟨q, hq, hbelow⟩
    obtain ⟨hlt, htake⟩ := Bool.and_eq_true_iff.mp hbelow
    have hsplit : p ++ q.drop p.length = q := by
      rw [← beq_iff_eq.mp htake, List.length_take_of_le,
        List.take_append_drop]
      exact Nat.le_of_lt (of_decide_eq_true hlt)
    refine ⟨q.drop p.length, ?_, by rwa [hsplit]⟩
    rw [← List.length_pos_iff, List.length_drop]
    have := of_decide_eq_true hlt
    omega
  · rintro ⟨more, hne, hmem⟩
    have hpos := List.length_pos_iff.mpr hne
    exact ⟨_, hmem, by simp [hpos]⟩

/-- What stands has a name, or something below it has. -/
theorem stands_iff (hne : p ≠ []) :
    fs.Stands p ↔ ∃ more, p ++ more ∈ fs.names := by
  have hentry : (fs.entry? p).isSome = true
      ↔ p ∈ fs.entries.map (·.1) ∨ fs.hasBelow p = true := by
    rw [← isSome_lookup_iff, entry?]
    cases fs.entries.lookup p with
    | some e => exact iff_of_true rfl (.inl rfl)
    | none =>
        have hempty : p.isEmpty = false :=
          Bool.eq_false_iff.mpr (mt List.isEmpty_iff.mp hne)
        rw [hempty, Bool.false_or]
        cases fs.hasBelow p <;> simp
  rw [Stands, hentry, link?, isSome_lookup_iff, hasBelow_iff]
  constructor
  · rintro ((hmem | ⟨more, -, hmore⟩) | hmem)
    · exact ⟨[], by rw [List.append_nil]; exact List.mem_append_left _ hmem⟩
    · exact ⟨more, hmore⟩
    · exact ⟨[], by rw [List.append_nil]; exact List.mem_append_right _ hmem⟩
  · rintro ⟨more, hmore⟩
    by_cases hnil : more = []
    · rw [hnil, List.append_nil] at hmore
      exact (List.mem_append.mp hmore).imp_left .inl
    · exact .inl (.inr ⟨more, hnil, hmore⟩)

/-- Below a path stands every name that continues it, and every directory
on the way to one. -/
theorem mem_below : steps ∈ fs.below p
    ↔ steps ≠ [] ∧ fs.Stands (p ++ steps) := by
  have hname : steps ∈ fs.below p
      ↔ steps ≠ [] ∧ ∃ more, p ++ steps ++ more ∈ fs.names := by
    unfold below
    dsimp only
    rw [List.mem_mergeSort, List.mem_eraseDups, List.mem_flatMap]
    constructor
    · rintro ⟨rel, hrel, hsteps⟩
      obtain ⟨n, hn, rfl⟩ := List.mem_map.mp hsteps
      obtain ⟨q, hentry, hq⟩ := List.mem_filterMap.mp hrel
      split at hq
      next hbelow =>
        cases hq
        obtain ⟨hlt, htake⟩ := Bool.and_eq_true_iff.mp hbelow
        have hq : p ++ q.drop p.length = q := by
          rw [← beq_iff_eq.mp htake, List.length_take_of_le,
            List.take_append_drop]
          exact Nat.le_of_lt (of_decide_eq_true hlt)
        refine ⟨?_, (q.drop p.length).drop (n + 1), ?_⟩
        · rw [← List.length_pos_iff, List.length_take]
          have := List.mem_range.mp hn
          omega
        · rw [List.append_assoc, List.take_append_drop, hq]
          exact hentry
      next => cases hq
    · rintro ⟨hne, more, hmem⟩
      have hpos := List.length_pos_iff.mpr hne
      refine ⟨steps ++ more, List.mem_filterMap.mpr ⟨_, hmem, ?_⟩, ?_⟩
      · simp [List.append_assoc, hpos]
      · refine List.mem_map.mpr ⟨steps.length - 1, ?_, ?_⟩
        · rw [List.mem_range, List.length_append]
          omega
        · rw [Nat.sub_add_cancel hpos, List.take_left]
  rw [hname]
  refine and_congr_right fun hne => (stands_iff ?_).symm
  exact fun h => hne (List.append_eq_nil_iff.mp h).2

theorem canSearch_iff : fs.canSearch p = true
    ↔ fs.entry? p = some .directory ∧ fs.link? p = none
      ∧ fs.refusal? .list p = none := by
  simp [canSearch, and_assoc]

/-- The steps that a search comes by. -/
theorem mem_filter_seen : steps ∈ (fs.below p).filter (fs.seen p)
    ↔ steps ≠ [] ∧ fs.Shows p steps := by
  rw [List.mem_filter, mem_below, and_assoc]
  refine and_congr_right fun _ => ?_
  rw [seen, List.all_eq_true]
  constructor
  · rintro ⟨hstands, hseen⟩
    refine ⟨hstands, fun way name more hsteps => canSearch_iff.mp ?_⟩
    have hway := hseen way.length
      (by rw [List.mem_range, hsteps]; simp)
    rwa [hsteps, List.take_left] at hway
  · intro h
    refine ⟨h.stands, fun n hn => canSearch_iff.mpr ?_⟩
    have hlt := List.mem_range.mp hn
    refine h.searched _ steps[n] (steps.drop (n + 1)) ?_
    rw [List.getElem_cons_drop, List.take_append_drop]

end FileSystem

-- ================================================================ sources

/-- A path text that leads to a file. -/
def FileSystem.IsFile (fs : FileSystem) (path : String) : Prop :=
  ∃ bytes, fs.lookup path = .ok (.file bytes)

/-- The files that a path stands for: itself, or the files below it that
some language claims, in the order of their components. -/
inductive Lists (files : FileSystem) (r : Registry) (path : String) :
    List String → Prop where
  | itself : files.isDirectory (normalPath path) = false →
      Lists files r path [normalPath path]
  | directory {place : FilePath} {found : List (List String)} :
      files.find (normalPath path) = .ok (place, .directory) →
      found.Pairwise (· < ·) →
      (∀ steps, steps ∈ found ↔ (steps ≠ [] ∧ files.Shows place steps)
        ∧ files.IsFile ((LexicalPath.ofText path).descend steps).toText
        ∧ r.supports ((LexicalPath.ofText path).descend steps).toText
          = true) →
      Lists files r path
        (found.map fun steps =>
          ((LexicalPath.ofText path).descend steps).toText)

/-- What ends the search for the files of a path: the system refuses to
say what the path leads to, to list a directory, or to say what one of the
paths leads to that a search comes by. -/
inductive Obstructs (files : FileSystem) (path : String) :
    OsFault → Prop where
  | asked {e : OsFault} : files.find (normalPath path) = .error e →
      e.cause.isAbsence = false → Obstructs files path e
  | listed {place : FilePath} {steps : List String} {cause : OsCause} :
      files.find (normalPath path) = .ok (place, .directory) →
      steps = [] ∨ files.Shows place steps →
      files.entry? (place ++ steps) = some .directory →
      files.link? (place ++ steps) = none →
      files.refusal? .list (place ++ steps) = some cause →
      cause.isPermission = false →
      Obstructs files path
        ⟨cause, ((LexicalPath.ofText path).descend steps).toText⟩
  | child {place : FilePath} {steps : List String} {e : OsFault} :
      files.find (normalPath path) = .ok (place, .directory) →
      steps ≠ [] → files.Shows place steps →
      files.lookup ((LexicalPath.ofText path).descend steps).toText
        = .error e →
      e.cause.isAbsence = false → Obstructs files path e

section Search

variable {files : FileSystem} {r : Registry} {path : LexicalPath}
  {place : FilePath} {found : List (List String)} {sources : List String}
  {e : OsFault}

/-- A search ends at a directory that cannot be listed, other than for
want of permission. -/
theorem unlisted?_eq_some (h : unlisted? files path place found = some e) :
    ∃ steps ∈ found, ∃ cause,
      files.entry? (place ++ steps) = some .directory
      ∧ files.link? (place ++ steps) = none
      ∧ files.refusal? .list (place ++ steps) = some cause
      ∧ cause.isPermission = false
      ∧ e = ⟨cause, (path.descend steps).toText⟩ := by
  induction found with
  | nil => cases h
  | cons steps rest ih =>
      unfold unlisted? at h
      dsimp only at h
      split at h
      next cause hentry hlink hrefusal =>
        split at h
        next =>
          obtain ⟨other, hmem, hrefused⟩ := ih h
          exact ⟨other, List.mem_cons_of_mem steps hmem, hrefused⟩
        next hpermission =>
          cases h
          exact ⟨steps, List.mem_cons_self, cause, hentry, hlink, hrefusal,
            Bool.eq_false_iff.mpr hpermission, rfl⟩
      next =>
        obtain ⟨other, hmem, hrefused⟩ := ih h
        exact ⟨other, List.mem_cons_of_mem steps hmem, hrefused⟩

theorem unlisted?_eq_none (h : unlisted? files path place found = none)
    {steps : List String} (hsteps : steps ∈ found)
    (hentry : files.entry? (place ++ steps) = some .directory)
    (hlink : files.link? (place ++ steps) = none) {cause : OsCause}
    (hrefusal : files.refusal? .list (place ++ steps) = some cause) :
    cause.isPermission = true := by
  induction found with
  | nil => cases hsteps
  | cons first rest ih =>
      unfold unlisted? at h
      dsimp only at h
      rcases List.mem_cons.mp hsteps with rfl | hsteps
      · rw [hentry, hlink, hrefusal] at h
        dsimp only at h
        split at h
        next hpermission => exact hpermission
        next => cases h
      · split at h
        next =>
          split at h
          next => exact ih h hsteps
          next => cases h
        next => exact ih h hsteps

/-- Whether a path leads to a file that some language claims. -/
def claims (files : FileSystem) (r : Registry) (path : String) : Bool :=
  match files.lookup path with
  | .ok (.file _) => r.supports path
  | _ => false

theorem claims_iff {path : String} : claims files r path = true
    ↔ files.IsFile path ∧ r.supports path = true := by
  unfold claims FileSystem.IsFile
  split
  next bytes hfile => simp [hfile]
  next hother =>
    refine iff_of_false Bool.false_ne_true ?_
    rintro ⟨⟨bytes, hbytes⟩, -⟩
    exact hother bytes hbytes

/-- What was found is filtered by what some language claims, unless some of
it cannot be asked. -/
theorem claimed_eq_ok (h : claimed files r path found = .ok sources) :
    sources = ((found.filter fun steps =>
        claims files r (path.descend steps).toText).map fun steps =>
          (path.descend steps).toText)
      ∧ ∀ steps ∈ found, ∀ e,
        files.lookup (path.descend steps).toText = .error e →
          e.cause.isAbsence = true := by
  induction found generalizing sources with
  | nil =>
      cases h
      exact ⟨rfl, nofun⟩
  | cons steps rest ih =>
      unfold claimed at h
      dsimp only at h
      cases hlookup : files.lookup (path.descend steps).toText with
      | error e =>
          rw [hlookup] at h
          dsimp only at h
          split at h
          next habsent =>
            obtain ⟨hrest, hasked⟩ := ih h
            refine ⟨?_, List.forall_mem_cons.mpr ⟨fun e' he' => ?_, hasked⟩⟩
            · rw [hrest, List.filter_cons_of_neg]
              simp [claims, hlookup]
            · cases hlookup.symm.trans he'
              exact habsent
          next => cases h
      | ok entry =>
          rw [hlookup] at h
          dsimp only at h
          cases hmore : claimed files r path rest with
          | error e =>
              rw [hmore] at h
              cases h
          | ok more =>
              rw [hmore] at h
              obtain ⟨hrest, hasked⟩ := ih hmore
              refine ⟨?_, List.forall_mem_cons.mpr ⟨fun e' he' => ?_, hasked⟩⟩
              · rw [List.filter_cons, claims, hlookup]
                cases entry with
                | file bytes =>
                    cases h
                    dsimp only
                    rw [hrest]
                    split <;> rfl
                | _ =>
                    cases h
                    exact hrest
              · cases hlookup.symm.trans he'

theorem claimed_eq_error (h : claimed files r path found = .error e) :
    ∃ steps ∈ found, files.lookup (path.descend steps).toText = .error e
      ∧ e.cause.isAbsence = false := by
  induction found with
  | nil => cases h
  | cons steps rest ih =>
      unfold claimed at h
      dsimp only at h
      split at h
      next f hlookup =>
        split at h
        next =>
          obtain ⟨other, hmem, hrefused⟩ := ih h
          exact ⟨other, List.mem_cons_of_mem steps hmem, hrefused⟩
        next habsent =>
          cases h
          exact ⟨steps, List.mem_cons_self, hlookup,
            Bool.eq_false_iff.mpr habsent⟩
      next =>
        split at h
        next hmore =>
          cases h
          obtain ⟨other, hmem, hrefused⟩ := ih hmore
          exact ⟨other, List.mem_cons_of_mem steps hmem, hrefused⟩
        next => split at h <;> cases h

end Search

section Sources

variable {files : FileSystem} {r : Registry} {path : String}
  {sources paths : List String} {e : OsFault}

/-- A path that leads nowhere stands for itself. -/
theorem lists_of_absent (hfind : files.find (normalPath path) = .error e)
    (habsent : e.cause.isAbsence = true) :
    Lists files r path [normalPath path]
      ∧ ∀ e, ¬Obstructs files path e := by
  refine ⟨.itself ?_, fun e he => ?_⟩
  · rw [FileSystem.isDirectory, FileSystem.lookup, hfind]
    rfl
  · cases he with
    | asked hasked hrefused =>
        cases hfind.symm.trans hasked
        rw [habsent] at hrefused
        cases hrefused
    | listed hplace | child hplace => cases hfind.symm.trans hplace

/-- A path to something that is no directory stands for itself. -/
theorem lists_of_ne_directory {place : FilePath} {entry : FileEntry}
    (hfind : files.find (normalPath path) = .ok (place, entry))
    (hne : entry ≠ .directory) :
    Lists files r path [normalPath path]
      ∧ ∀ e, ¬Obstructs files path e := by
  refine ⟨.itself ?_, fun e he => ?_⟩
  · rw [FileSystem.isDirectory, FileSystem.lookup, hfind]
    cases entry with
    | directory => exact absurd rfl hne
    | _ => rfl
  · cases he with
    | asked hasked => cases hfind.symm.trans hasked
    | listed hplace | child hplace =>
        cases hfind.symm.trans hplace
        exact hne rfl

/-- A directory stands for what is claimed below it, if it and all that a
search comes by can be listed. -/
theorem lists_of_directory {place : FilePath}
    (hfind : files.find (normalPath path) = .ok (place, .directory))
    (hlisted : unlisted? files (.ofText path) place
      ([] :: (files.below place).filter (files.seen place)) = none)
    (hclaimed : claimed files r (.ofText path)
      ((files.below place).filter (files.seen place)) = .ok sources) :
    Lists files r path sources ∧ ∀ e, ¬Obstructs files path e := by
  obtain ⟨rfl, hasked⟩ := claimed_eq_ok hclaimed
  refine ⟨.directory hfind
    (((files.pairwise_lt_below place).filter _).filter _)
    fun steps => ?_, fun e he => ?_⟩
  · rw [List.mem_filter, FileSystem.mem_filter_seen, claims_iff]
  · cases he with
    | asked hrefused => cases hfind.symm.trans hrefused
    | @listed _ steps _ hplace hshows hentry hlink hrefusal hother =>
        cases hfind.symm.trans hplace
        have hmem : steps ∈ [] :: (files.below place).filter
            (files.seen place) := by
          by_cases hnil : steps = []
          · rw [hnil]
            exact List.mem_cons_self
          · exact List.mem_cons_of_mem _ (FileSystem.mem_filter_seen.mpr
              ⟨hnil, hshows.resolve_left hnil⟩)
        rw [unlisted?_eq_none hlisted hmem hentry hlink hrefusal] at hother
        cases hother
    | child hplace hnil hshows hlookup hother =>
        cases hfind.symm.trans hplace
        rw [hasked _ (FileSystem.mem_filter_seen.mpr ⟨hnil, hshows⟩) _
          hlookup] at hother
        cases hother

/-- The files of a path are listed, and nothing was in the way. -/
theorem sourcesOf_lists (h : sourcesOf files r path = .ok sources) :
    Lists files r path sources ∧ ∀ e, ¬Obstructs files path e := by
  unfold sourcesOf at h
  dsimp only at h
  cases hfind : files.find (normalPath path) with
  | error f =>
      rw [show files.find (LexicalPath.ofText path).toText = .error f
        from hfind] at h
      dsimp only at h
      split at h
      next habsent =>
        cases h
        exact lists_of_absent hfind habsent
      next => cases h
  | ok found =>
      obtain ⟨place, entry⟩ := found
      rw [show files.find (LexicalPath.ofText path).toText
        = .ok (place, entry) from hfind] at h
      cases entry with
      | directory =>
          dsimp only at h
          split at h
          next => cases h
          next hlisted => exact lists_of_directory hfind hlisted h
      | _ =>
          cases h
          exact lists_of_ne_directory hfind nofun

/-- What ends a search is in its way. -/
theorem obstructs_of_sourcesOf (h : sourcesOf files r path = .error e) :
    Obstructs files path e := by
  unfold sourcesOf at h
  dsimp only at h
  split at h
  next f hfind =>
    split at h
    next => cases h
    next habsent =>
      cases h
      exact .asked hfind (Bool.eq_false_iff.mpr habsent)
  next place hfind =>
    split at h
    next f hlisted =>
      cases h
      obtain ⟨steps, hmem, cause, hentry, hlink, hrefusal, hother, rfl⟩ :=
        unlisted?_eq_some hlisted
      refine .listed hfind ?_ hentry hlink hrefusal hother
      refine (List.mem_cons.mp hmem).imp_right fun hmem => ?_
      exact (FileSystem.mem_filter_seen.mp hmem).2
    next =>
      obtain ⟨steps, hmem, hlookup, hother⟩ := claimed_eq_error h
      obtain ⟨hnil, hshows⟩ := FileSystem.mem_filter_seen.mp hmem
      exact .child hfind hnil hshows hlookup hother
  next => cases h

/-- The files of all paths are listed, one path after the other. -/
theorem sourcesOfAll_lists (h : sourcesOfAll files r paths = .ok sources) :
    ∃ lists, List.Forall₂ (Lists files r) paths lists
      ∧ sources = lists.flatten
      ∧ ∀ path ∈ paths, ∀ e, ¬Obstructs files path e := by
  induction paths generalizing sources with
  | nil =>
      cases h
      exact ⟨[], .nil, rfl, nofun⟩
  | cons path rest ih =>
      unfold sourcesOfAll at h
      split at h
      next => cases h
      next first hfirst =>
        cases hrest : sourcesOfAll files r rest with
        | error e =>
            rw [hrest] at h
            cases h
        | ok more =>
            rw [hrest] at h
            cases h
            obtain ⟨hlists, hfree⟩ := sourcesOf_lists hfirst
            obtain ⟨lists, hall, rfl, hothers⟩ := ih hrest
            exact ⟨first :: lists, .cons hlists hall, rfl,
              List.forall_mem_cons.mpr ⟨hfree, hothers⟩⟩

theorem obstructs_of_sourcesOfAll
    (h : sourcesOfAll files r paths = .error e) :
    ∃ path ∈ paths, Obstructs files path e := by
  induction paths with
  | nil => cases h
  | cons path rest ih =>
      unfold sourcesOfAll at h
      split at h
      next hfirst =>
        cases h
        exact ⟨path, List.mem_cons_self, obstructs_of_sourcesOf hfirst⟩
      next =>
        cases hrest : sourcesOfAll files r rest with
        | error f =>
            rw [hrest] at h
            cases h
            obtain ⟨other, hother, hobstructs⟩ := ih hrest
            exact ⟨other, List.mem_cons_of_mem path hother, hobstructs⟩
        | ok more =>
            rw [hrest] at h
            cases h

end Sources

end Outline
