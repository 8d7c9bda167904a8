/-
The files of a listing can be read.

Files are listed by searching directories, and read by following the text
of each path. Between the two a run logs, and events may go to files.
Logging adds bytes to files and changes nothing else
(`Session.logAll_alike`), and what is listed and what is in the way of it
is the same in every file system that is alike (`Lists.alike`,
`Obstructs.alike`). So every file of a listing can be read to its end, or
the system refuses to; only a pipe that was named itself is read for ever
(`Lists.access`).
-/
import Outline.Proofs.Files.Following

namespace Outline

open Keyed

namespace FileSystem

variable {fs gs : FileSystem} {p q : FilePath}

/-- Whether a file stands under an absolute path. -/
def HasFile (fs : FileSystem) (p : FilePath) : Prop :=
  ∃ bytes, fs.entry? p = some (.file bytes)

-- ================================================================== alike

/-- File systems with the same entries, links and refusals, but for the
bytes of files. -/
structure Alike (fs gs : FileSystem) : Prop where
  current : fs.current = gs.current
  links : fs.links = gs.links
  refusals : fs.refusals = gs.refusals
  entries : ∀ p, fs.entry? p = gs.entry? p ∨ fs.HasFile p ∧ gs.HasFile p

namespace Alike

theorem refl (fs : FileSystem) : fs.Alike fs :=
  ⟨rfl, rfl, rfl, fun _ => .inl rfl⟩

theorem symm (h : fs.Alike gs) : gs.Alike fs :=
  ⟨h.current.symm, h.links.symm, h.refusals.symm, fun p =>
    (h.entries p).imp Eq.symm And.symm⟩

theorem trans {ks : FileSystem} (h : fs.Alike gs) (h' : gs.Alike ks) :
    fs.Alike ks := by
  refine ⟨h.current.trans h'.current, h.links.trans h'.links,
    h.refusals.trans h'.refusals, fun p => ?_⟩
  rcases h.entries p with heq | ⟨hf, hg⟩
  · rcases h'.entries p with heq' | ⟨hg, hk⟩
    · exact .inl (heq.trans heq')
    · exact .inr ⟨by rwa [HasFile, heq], hk⟩
  · rcases h'.entries p with heq' | ⟨-, hk⟩
    · exact .inr ⟨hf, by rwa [HasFile, ← heq']⟩
    · exact .inr ⟨hf, hk⟩

theorem link? (h : fs.Alike gs) (p : FilePath) : fs.link? p = gs.link? p := by
  rw [FileSystem.link?, FileSystem.link?, h.links]

theorem refusal? (h : fs.Alike gs) (act : FileAct) (p : FilePath) :
    fs.refusal? act p = gs.refusal? act p := by
  rw [FileSystem.refusal?, FileSystem.refusal?, h.refusals]

/-- Something stands in the same places. -/
theorem isSome_entry? (h : fs.Alike gs) (p : FilePath) :
    (fs.entry? p).isSome = (gs.entry? p).isSome := by
  rcases h.entries p with heq | ⟨⟨a, ha⟩, ⟨b, hb⟩⟩
  · rw [heq]
  · rw [ha, hb]
    rfl

/-- Directories stand in the same places. -/
theorem directory (h : fs.Alike gs) (hp : fs.entry? p = some .directory) :
    gs.entry? p = some .directory := by
  rcases h.entries p with heq | ⟨⟨a, ha⟩, -⟩
  · rw [← heq, hp]
  · cases hp.symm.trans ha

theorem step (h : fs.Alike gs) (here : FilePath) (name : String) :
    fs.step here name = gs.step here name := by
  rw [FileSystem.step, FileSystem.step, h.refusal?]
  rcases h.entries here with heq | ⟨⟨a, ha⟩, ⟨b, hb⟩⟩
  · rw [heq]
  · rw [ha, hb]

theorem walk (h : fs.Alike gs) (new : Bool)
    (go : FilePath → List String → Except OsCause FilePath)
    (steps : List String) (here : FilePath) :
    fs.walk new go here steps = gs.walk new go here steps := by
  induction steps generalizing here with
  | nil => rw [FileSystem.walk, FileSystem.walk, h.isSome_entry?]
  | cons name rest ih =>
      rw [FileSystem.walk, FileSystem.walk, h.step]
      simp only [h.link?, ih]

/-- Components are followed in the same way. -/
theorem follow (h : fs.Alike gs) (new : Bool) (budget : Nat) :
    fs.follow new budget = gs.follow new budget := by
  induction budget with
  | zero =>
      funext here steps
      exact h.walk new _ steps here
  | succ budget ih =>
      funext here steps
      rw [FileSystem.follow, FileSystem.follow, ih]
      exact h.walk new _ steps here

theorem locate (h : fs.Alike gs) (new : Bool) (path : String) :
    fs.locate new path = gs.locate new path := by
  unfold FileSystem.locate
  rw [h.current, h.follow]

/-- A path leads to the same, or to files in one place. -/
theorem find (h : fs.Alike gs) (path : String) :
    fs.find path = gs.find path
      ∨ ∃ p a b, fs.find path = .ok (p, .file a)
        ∧ gs.find path = .ok (p, .file b) := by
  unfold FileSystem.find
  rw [h.locate]
  cases gs.locate false path with
  | error e => exact .inl rfl
  | ok p =>
      dsimp only
      rw [h.refusal?]
      cases gs.refusal? .look p with
      | some cause => exact .inl rfl
      | none =>
          rcases h.entries p with heq | ⟨⟨a, ha⟩, ⟨b, hb⟩⟩
          · rw [heq]
            exact .inl rfl
          · rw [ha, hb]
            exact .inr ⟨p, a, b, rfl, rfl⟩

theorem find_error (h : fs.Alike gs) {path : String} {e : OsFault}
    (hfind : fs.find path = .error e) : gs.find path = .error e := by
  rcases h.find path with heq | ⟨p, a, b, ha, -⟩
  · rw [← heq, hfind]
  · cases hfind.symm.trans ha

theorem find_directory (h : fs.Alike gs) {path : String}
    (hfind : fs.find path = .ok (p, .directory)) :
    gs.find path = .ok (p, .directory) := by
  rcases h.find path with heq | ⟨q, a, b, ha, -⟩
  · rw [← heq, hfind]
  · cases hfind.symm.trans ha

theorem lookup (h : fs.Alike gs) (path : String) :
    fs.lookup path = gs.lookup path
      ∨ ∃ a b, fs.lookup path = .ok (.file a)
        ∧ gs.lookup path = .ok (.file b) := by
  unfold FileSystem.lookup
  rcases h.find path with heq | ⟨p, a, b, ha, hb⟩
  · exact .inl (by rw [heq])
  · exact .inr ⟨a, b, by rw [ha]; rfl, by rw [hb]; rfl⟩

theorem isDirectory (h : fs.Alike gs) (path : String) :
    fs.isDirectory path = gs.isDirectory path := by
  rw [FileSystem.isDirectory, FileSystem.isDirectory]
  rcases h.lookup path with heq | ⟨a, b, ha, hb⟩
  · rw [heq]
  · rw [ha, hb]

theorem isFile_iff (h : fs.Alike gs) (path : String) :
    fs.IsFile path ↔ gs.IsFile path := by
  rw [IsFile, IsFile]
  rcases h.lookup path with heq | ⟨a, b, ha, hb⟩
  · rw [heq]
  · rw [ha, hb]
    exact iff_of_true ⟨a, rfl⟩ ⟨b, rfl⟩

/-- A search comes by the same. -/
theorem shows (h : fs.Alike gs) {steps : List String}
    (hshows : fs.Shows p steps) : gs.Shows p steps := by
  refine ⟨?_, fun way name more hsteps => ?_⟩
  · have hstands := hshows.stands
    rwa [Stands, h.isSome_entry?, h.link?] at hstands
  · obtain ⟨hentry, hlink, hlisted⟩ := hshows.searched way name more hsteps
    rw [h.link?] at hlink
    rw [h.refusal?] at hlisted
    exact ⟨h.directory hentry, hlink, hlisted⟩

/-- An attempt to read a path ends in the same way. -/
theorem access (h : fs.Alike gs) (path : String) :
    fs.access path = gs.access path
      ∨ ∃ s t, fs.access path = .state s ∧ gs.access path = .state t := by
  rw [FileSystem.access, FileSystem.access]
  split
  next => exact .inl rfl
  next =>
    dsimp only
    rcases h.find (normalPath path) with heq | ⟨p, a, b, ha, hb⟩
    · rw [heq]
      cases gs.find (normalPath path) with
      | error e => exact .inl rfl
      | ok found =>
          obtain ⟨p, entry⟩ := found
          dsimp only
          rw [h.refusal?]
          exact .inl rfl
    · rw [ha, hb]
      dsimp only
      rw [h.refusal?]
      cases gs.refusal? .read p with
      | some cause => exact .inr ⟨_, _, rfl, rfl⟩
      | none => exact .inr ⟨_, _, rfl, rfl⟩

end Alike

-- ================================================================ logging

/-- The entries under other paths stay. -/
theorem lookup_entries_set {e : FileEntry} (hne : q ≠ p) :
    (fs.set p e).entries.lookup q = fs.entries.lookup q := by
  have hbeq : (q == p) = false := beq_eq_false_iff_ne.mpr hne
  have hfilter : ∀ entries : List (FilePath × FileEntry),
      (entries.filter (·.1 != p)).lookup q = entries.lookup q := by
    intro entries
    induction entries with
    | nil => rfl
    | cons entry rest ih =>
        obtain ⟨k, f⟩ := entry
        by_cases hk : k = p
        · simp [hk, List.lookup_cons, hbeq, ih]
        · simp [hk, List.lookup_cons, ih]
  rw [set, List.lookup_append, hfilter]
  simp [List.lookup_cons, hbeq]

/-- The entry that was put is found. -/
theorem lookup_entries_set_self {e : FileEntry} :
    (fs.set p e).entries.lookup p = some e := by
  -- the old entry is gone, so that the new one at the end is found
  have hnone : (fs.entries.filter (·.1 != p)).lookup p = none := by
    rw [List.lookup_eq_none_iff]
    intro entry hentry
    rw [bne_comm]
    exact (List.mem_filter.mp hentry).2
  rw [set, List.lookup_append, hnone, Option.none_or]
  simp

/-- A file has an entry of its own. -/
theorem mem_entries_of_file {bytes : List UInt8}
    (h : fs.entry? p = some (.file bytes)) :
    (p, .file bytes) ∈ fs.entries := by
  unfold entry? at h
  split at h
  next e hlookup =>
    cases h
    obtain ⟨_, _, heq, -⟩ := List.lookup_eq_some_iff.mp hlookup
    rw [heq]
    simp
  next => split at h <;> cases h

/-- An entry in a place that has a name already is no new name. -/
theorem mem_names_set {e : FileEntry} (hp : p ∈ keys fs.entries) :
    q ∈ (fs.set p e).names ↔ q ∈ fs.names := by
  rw [names, names, List.mem_append, List.mem_append]
  refine or_congr_left ?_
  rw [set, List.map_append, List.mem_append, List.map_singleton,
    List.mem_singleton]
  constructor
  · rintro (hq | rfl)
    · obtain ⟨entry, hentry, rfl⟩ := List.mem_map.mp hq
      exact List.mem_map.mpr ⟨entry, List.mem_of_mem_filter hentry, rfl⟩
    · exact hp
  · intro hq
    by_cases hne : q = p
    · exact .inr hne
    · obtain ⟨entry, hentry, rfl⟩ := List.mem_map.mp hq
      exact .inl (List.mem_map.mpr ⟨entry,
        List.mem_filter.mpr ⟨hentry, bne_iff_ne.mpr hne⟩, rfl⟩)

/-- A path that was there has as much below it as before. -/
theorem hasBelow_set {e : FileEntry} (hp : p ∈ keys fs.entries)
    (q : FilePath) : (fs.set p e).hasBelow q = fs.hasBelow q := by
  rw [Bool.eq_iff_iff, hasBelow_iff, hasBelow_iff]
  simp only [mem_names_set hp]

/-- Bytes that are written into a file that is there. -/
theorem set_alike {bytes : List UInt8} (h : fs.HasFile p) :
    (fs.set p (.file bytes)).Alike fs := by
  refine ⟨rfl, rfl, rfl, fun q => ?_⟩
  obtain ⟨old, hold⟩ := h
  have hp : p ∈ keys fs.entries :=
    List.mem_map.mpr ⟨_, mem_entries_of_file hold, rfl⟩
  by_cases hne : q = p
  · subst hne
    refine .inr ⟨⟨bytes, ?_⟩, ⟨old, hold⟩⟩
    unfold entry?
    rw [lookup_entries_set_self]
  · refine .inl ?_
    unfold entry?
    rw [lookup_entries_set hne, hasBelow_set hp]

theorem append_alike (fs : FileSystem) (p : FilePath) (bytes : List UInt8) :
    (fs.append p bytes).Alike fs := by
  unfold append
  split
  next old hold => exact set_alike ⟨old, hold⟩
  next => exact .refl fs

end FileSystem

namespace Session

theorem write_alike (s : Session) (d : Destination) (text : String) :
    (s.write d text).files.Alike s.files := by
  cases d with
  | stdout => exact .refl _
  | stderr => exact .refl _
  | file p => exact s.files.append_alike p _

theorem carry_alike (deliveries : List Delivery) (s : Session) :
    (s.carry deliveries).files.Alike s.files := by
  induction deliveries generalizing s with
  | nil => exact .refl _
  | cons d rest ih =>
      exact (ih (s.write d.destination (d.line ++ "\n"))).trans
        (s.write_alike d.destination _)

theorem log_alike (s : Session) (e : Event) :
    (s.log e).files.Alike s.files :=
  s.carry_alike _

/-- Events change nothing but the bytes of files. -/
theorem logAll_alike (events : List Event) (s : Session) :
    (s.logAll events).files.Alike s.files := by
  induction events generalizing s with
  | nil => exact .refl _
  | cons e rest ih => exact (ih (s.log e)).trans (s.log_alike e)

end Session

/-- A listing is good for all file systems that are alike. -/
theorem Lists.alike {fs gs : FileSystem} {r : Registry} {path : String}
    {sources : List String} (h : fs.Alike gs)
    (hlists : Lists fs r path sources) : Lists gs r path sources := by
  cases hlists with
  | itself hfile =>
      rw [h.isDirectory] at hfile
      exact .itself hfile
  | directory hplace hsorted hmem =>
      refine .directory (h.find_directory hplace) hsorted fun steps => ?_
      rw [hmem, h.isFile_iff]
      exact and_congr_left fun _ => and_congr_right fun _ =>
        ⟨h.shows, h.symm.shows⟩

/-- What is in the way of a search is in its way in all file systems that
are alike. -/
theorem Obstructs.alike {fs gs : FileSystem} {path : String} {e : OsFault}
    (h : fs.Alike gs) (hobstructs : Obstructs fs path e) :
    Obstructs gs path e := by
  cases hobstructs with
  | asked hfind hrefused => exact .asked (h.find_error hfind) hrefused
  | listed hplace hshows hentry hlink hrefusal hother =>
      rw [h.link?] at hlink
      rw [h.refusal?] at hrefusal
      exact .listed (h.find_directory hplace) (hshows.imp_right h.shows)
        (h.directory hentry) hlink hrefusal hother
  | child hplace hnil hshows hlookup hother =>
      refine .child (h.find_directory hplace) hnil (h.shows hshows) ?_ hother
      rcases h.lookup _ with heq | ⟨a, b, ha, -⟩
      · rw [← heq, hlookup]
      · cases hlookup.symm.trans ha

-- ================================================================ reading

/-- A path is read as its normal form. -/
theorem FileSystem.access_normalPath (fs : FileSystem) {path : String}
    (hnull : '\x00' ∉ path.toList) :
    fs.access (normalPath path) = fs.access path := by
  have hnormal := LexicalPath.normal_ofText path
  have hnull' : '\x00' ∉ (normalPath path).toList := by
    intro hmem
    rcases hnormal.mem_toText hmem with h | h | ⟨part, hpart, hc⟩
    · cases h
    · cases h
    · exact hnull (LexicalPath.mem_of_mem_parts hpart hc)
  have hagain : normalPath (normalPath path) = normalPath path :=
    hnormal.normalPath_toText
  rw [access, access, if_neg (by simpa using hnull'),
    if_neg (by simpa using hnull), hagain]

/-- Without a null character a path can be asked for. -/
theorem FileSystem.access_ne_unnameable (fs : FileSystem) {path : String}
    (hnull : '\x00' ∉ path.toList) : fs.access path ≠ .unnameable := by
  rw [access, if_neg (by simpa using hnull)]
  dsimp only
  split
  next => nofun
  next =>
    split
    next => nofun
    next => split <;> nofun

/-- A path that leads to a file is read to its end, or the system refuses
to. -/
theorem FileSystem.IsFile.access {fs : FileSystem} {path : String}
    (h : fs.IsFile path) (hnormal : normalPath path = path)
    (hnull : '\x00' ∉ path.toList) : ∃ s, fs.access path = .state s := by
  obtain ⟨bytes, hbytes⟩ := h
  rw [lookup] at hbytes
  rw [FileSystem.access, if_neg (by simpa using hnull), hnormal]
  dsimp only
  cases hfind : fs.find path with
  | error e => exact ⟨_, rfl⟩
  | ok found =>
      obtain ⟨p, entry⟩ := found
      rw [hfind] at hbytes
      cases hbytes
      dsimp only
      split <;> exact ⟨_, rfl⟩

/-- The path text of what a search comes by is in its normal form. -/
theorem normal_descend {path : String} {steps : List String}
    (hsteps : ∀ name ∈ steps, IsName name) (hnull : '\x00' ∉ path.toList) :
    normalPath ((LexicalPath.ofText path).descend steps).toText
        = ((LexicalPath.ofText path).descend steps).toText
      ∧ '\x00'
        ∉ ((LexicalPath.ofText path).descend steps).toText.toList := by
  have hchild := (LexicalPath.normal_ofText path).descend hsteps
  refine ⟨hchild.normalPath_toText, fun hmem => ?_⟩
  rcases hchild.mem_toText hmem with h | h | ⟨part, hpart, hc⟩
  · cases h
  · cases h
  · rcases List.mem_append.mp hpart with hpart | hpart
    · exact hnull (LexicalPath.mem_of_mem_parts hpart hc)
    · exact (hsteps part hpart).null hc

/-- A source of a listing is read to its end, or the system refuses to,
unless it is a pipe that was named itself. -/
theorem Lists.access {fs : FileSystem} {r : Registry} {path : String}
    {sources : List String} (hlists : Lists fs r path sources)
    (hnamed : fs.WellNamed) (hnull : '\x00' ∉ path.toList) {source : String}
    (hsource : source ∈ sources) :
    (∃ s, fs.access source = .state s)
      ∨ fs.access source = .endless ∧ fs.access path = .endless := by
  cases hlists with
  | itself =>
      rw [List.mem_singleton.mp hsource, fs.access_normalPath hnull]
      cases haccess : fs.access path with
      | state s => exact .inl ⟨s, rfl⟩
      | unnameable => exact absurd haccess (fs.access_ne_unnameable hnull)
      | endless => exact .inr ⟨rfl, rfl⟩
  | directory hplace _ hmem =>
      obtain ⟨steps, hsteps, rfl⟩ := List.mem_map.mp hsource
      obtain ⟨⟨hne, hshows⟩, hfile, -⟩ := (hmem steps).mp hsteps
      obtain ⟨hnormal, hnull'⟩ :=
        normal_descend (hnamed.isName hne hshows.stands) hnull
      exact .inl (hfile.access hnormal hnull')

/-- A pipe stands for itself. -/
theorem Lists.mem_of_endless {fs : FileSystem} {r : Registry} {path : String}
    {sources : List String} (hlists : Lists fs r path sources)
    (h : fs.access path = .endless) : normalPath path ∈ sources := by
  cases hlists with
  | itself => exact List.mem_singleton_self _
  | directory hplace =>
      rw [FileSystem.access] at h
      split at h
      next => cases h
      next =>
        dsimp only at h
        rw [hplace] at h
        dsimp only at h
        split at h <;> cases h

/-- What was found in a directory is supported. -/
theorem Lists.supports {fs : FileSystem} {r : Registry} {path : String}
    {sources : List String} (hlists : Lists fs r path sources)
    (h : fs.isDirectory (normalPath path) = true) {source : String}
    (hsource : source ∈ sources) : r.supports source = true := by
  cases hlists with
  | itself hfile => cases h.symm.trans hfile
  | directory _ _ hmem =>
      obtain ⟨steps, hsteps, rfl⟩ := List.mem_map.mp hsource
      exact ((hmem steps).mp hsteps).2.2

end Outline
