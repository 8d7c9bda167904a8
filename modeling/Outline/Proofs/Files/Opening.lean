/-
Files that are opened to be written at their end.

Opening makes what is missing, an empty file and the directories on the
way to it, and touches nothing that is there (`Grows`): no byte changes,
what can be written stays so, and links lead where they led. Writing adds
bytes to one file and leaves every other entry alone (`bytesOf_append`,
`entry?_append_of_ne`). A path is opened where its links and dots lead
(`openForAppend_grows`), so two texts of one path lead to one file.
-/
import Outline.Proofs.Files.Access

namespace Outline.FileSystem

open Keyed

variable {fs gs : FileSystem} {p q : FilePath} {e : FileEntry}
  {path : LexicalPath}

/-- The bytes of the file under a path; there are none without a file. -/
def bytesOf (fs : FileSystem) (p : FilePath) : List UInt8 :=
  match fs.entry? p with
  | some (.file bytes) => bytes
  | _ => []

/-- Something that can be written stands under a path. -/
def IsOpen (fs : FileSystem) (p : FilePath) : Prop :=
  ∃ e, fs.entries.lookup p = some e ∧ e ≠ .directory

/-- What is written under a path is kept, because neither a pipe nor a
device stands there. -/
def Keeps (fs : FileSystem) (p : FilePath) : Prop :=
  fs.entry? p ≠ some .pipe ∧ fs.entry? p ≠ some .device

theorem entry?_of_lookup (h : fs.entries.lookup p = some e) :
    fs.entry? p = some e := by
  unfold entry?
  rw [h]

theorem lookup_of_entry? (h : fs.entry? p = some e) (hne : e ≠ .directory) :
    fs.entries.lookup p = some e := by
  unfold entry? at h
  split at h
  next hlookup => rw [hlookup, h]
  next =>
    split at h
    next =>
      cases h
      exact absurd rfl hne
    next => cases h

theorem lookup_of_entry?_none (h : fs.entry? p = none) :
    fs.entries.lookup p = none := by
  unfold entry? at h
  split at h
  next => cases h
  next hnone => exact hnone

-- ================================================================ growing

/-- The entries that one file system has stand in the other too, and what
the other has besides are directories and empty files. Paths lead where
they led. -/
structure Grows (fs gs : FileSystem) : Prop where
  current : gs.current = fs.current
  links : gs.links = fs.links
  lookup : ∀ p e, fs.entries.lookup p = some e → gs.entries.lookup p = some e
  entries : ∀ p, gs.entry? p = fs.entry? p
    ∨ fs.entry? p = none
      ∧ (gs.entry? p = some .directory ∨ gs.entry? p = some (.file []))

namespace Grows

theorem refl (fs : FileSystem) : fs.Grows fs :=
  ⟨rfl, rfl, fun _ _ h => h, fun _ => .inl rfl⟩

theorem trans {ks : FileSystem} (h : fs.Grows gs) (h' : gs.Grows ks) :
    fs.Grows ks := by
  refine ⟨h'.current.trans h.current, h'.links.trans h.links,
    fun p e hp => h'.lookup p e (h.lookup p e hp), fun p => ?_⟩
  rcases h'.entries p with heq | ⟨hnone, hnew⟩
  · rw [heq]
    exact h.entries p
  · rcases h.entries p with heq | ⟨-, hold | hold⟩
    · rw [heq] at hnone
      exact .inr ⟨hnone, hnew⟩
    · rw [hold] at hnone
      cases hnone
    · rw [hold] at hnone
      cases hnone

theorem resolve? (h : fs.Grows gs) (path : String) :
    gs.resolve? path = fs.resolve? path := by
  rw [FileSystem.resolve?, FileSystem.resolve?, h.current, h.links]

theorem bytesOf (h : fs.Grows gs) (p : FilePath) :
    gs.bytesOf p = fs.bytesOf p := by
  unfold FileSystem.bytesOf
  rcases h.entries p with heq | ⟨hnone, hnew | hnew⟩
  · rw [heq]
  · rw [hnone, hnew]
  · rw [hnone, hnew]

theorem keeps (h : fs.Grows gs) (hp : fs.Keeps p) : gs.Keeps p := by
  unfold Keeps
  rcases h.entries p with heq | ⟨-, hnew | hnew⟩
  · rw [heq]
    exact hp
  · rw [hnew]
    exact ⟨nofun, nofun⟩
  · rw [hnew]
    exact ⟨nofun, nofun⟩

theorem isOpen (h : fs.Grows gs) : fs.IsOpen p → gs.IsOpen p := by
  rintro ⟨e, hlookup, hne⟩
  exact ⟨e, h.lookup p e hlookup, hne⟩

end Grows

/-- An entry in a new place. -/
theorem set_grows (hnone : fs.entry? p = none)
    (he : e = .directory ∨ e = .file []) : fs.Grows (fs.set p e) := by
  have hlookup := lookup_of_entry?_none hnone
  -- nothing is replaced
  have hentries : (fs.set p e).entries = fs.entries ++ [(p, e)] := by
    rw [set, List.filter_eq_self.mpr]
    intro entry hentry
    rw [bne_comm]
    exact List.lookup_eq_none_iff.mp hlookup entry hentry
  refine ⟨rfl, rfl, fun q f hq => ?_, fun q => ?_⟩
  · rw [hentries, List.lookup_append, hq, Option.some_or]
  · by_cases hne : q = p
    · subst hne
      rw [entry?_of_lookup lookup_entries_set_self]
      rcases he with rfl | rfl
      · exact .inr ⟨hnone, .inl rfl⟩
      · exact .inr ⟨hnone, .inr rfl⟩
    · unfold entry?
      rw [lookup_entries_set hne]
      cases fs.entries.lookup q with
      | some f => exact .inl rfl
      | none =>
          dsimp only
          by_cases hthere : (q.isEmpty || fs.hasBelow q) = true
          · -- a directory has still what it had below
            have hstill : (q.isEmpty || (fs.set p e).hasBelow q) = true := by
              rw [Bool.or_eq_true] at hthere ⊢
              refine hthere.imp_right fun hbelow => ?_
              obtain ⟨more, hne, hmem⟩ := hasBelow_iff.mp hbelow
              refine hasBelow_iff.mpr ⟨more, hne, ?_⟩
              rw [names, hentries, List.map_append, List.append_assoc]
              exact (List.mem_append.mp hmem).elim
                (List.mem_append_left _)
                fun hlink => List.mem_append_right _
                  (List.mem_append_right _ hlink)
            rw [if_pos hthere, if_pos hstill]
            exact .inl rfl
          · rw [if_neg hthere]
            split
            next => exact .inr ⟨rfl, .inl rfl⟩
            next => exact .inl rfl

theorem make_grows {text : String} (hnone : fs.entry? p = none)
    (he : e = .directory ∨ e = .file []) (h : fs.make text p e = .ok gs) :
    fs.Grows gs ∧ gs = fs.set p e := by
  unfold make at h
  split at h
  next => cases h
  next =>
    cases h
    exact ⟨set_grows hnone he, rfl⟩

theorem makeAt_grows {text : String} (h : fs.makeAt text p = .ok gs) :
    fs.Grows gs := by
  unfold makeAt at h
  split at h
  next =>
    split at h
    next =>
      cases h
      exact .refl _
    next => cases h
    next => split at h <;> cases h
  next hfree =>
    rw [Bool.or_eq_true, not_or] at hfree
    exact (make_grows (Option.not_isSome_iff_eq_none.mp hfree.2) (.inl rfl)
      h).1

theorem makeDirectory_grows {fuel : Nat}
    (h : fs.makeDirectory path fuel = .ok gs) : fs.Grows gs := by
  induction fuel generalizing path gs with
  | zero =>
      rw [makeDirectory] at h
      cases h
  | succ fuel ih =>
      rw [makeDirectory] at h
      split at h
      next => exact makeAt_grows h
      next =>
        split at h
        next =>
          -- the parents are made first
          split at h
          next => cases h
          next ks hparent =>
            refine (ih hparent).trans ?_
            split at h
            next => exact makeAt_grows h
            next => cases h
        next => cases h

/-- A file that is opened can be written, and stands where its path
leads. -/
theorem openForAppend_grows (h : fs.openForAppend path = .ok (p, gs)) :
    fs.Grows gs ∧ gs.IsOpen p ∧ fs.resolve? path.toText = some p := by
  unfold openForAppend at h
  split at h
  next => cases h
  next place hplace =>
    have hresolve := resolve?_of_locate hplace
    split at h
    next hnone =>
      cases hmake : fs.make path.toText place (.file []) with
      | error e =>
          rw [hmake] at h
          cases h
      | ok made =>
          rw [hmake] at h
          cases h
          obtain ⟨hgrows, rfl⟩ := make_grows hnone (.inr rfl) hmake
          exact ⟨hgrows, ⟨_, lookup_entries_set_self, nofun⟩, hresolve⟩
    next => cases h
    next e hne hsome =>
      split at h
      next => cases h
      next =>
        cases h
        exact ⟨.refl fs, ⟨e, lookup_of_entry? hsome hne, hne⟩, hresolve⟩

-- ================================================================= places

/-- Without double dots an absolute path has no double dots. -/
theorem mem_parts_withoutDots (h : path.isAbsolute = true) {name : String}
    (hname : name ∈ (withoutDots path).parts) :
    name ∈ path.parts ∧ name ≠ ".." := by
  unfold withoutDots at hname
  simp only [h, Bool.not_true, Bool.and_false, Bool.false_eq_true,
    if_false] at hname
  -- what is kept on the way are components before, and none of them dots
  have hkept : ∀ names kept : List String,
      name ∈ names.foldl (fun kept name =>
        if name == ".." then kept.dropLast else kept ++ [name]) kept →
      name ∈ kept ∨ name ∈ names ∧ name ≠ ".." := by
    intro names
    induction names with
    | nil => exact fun kept hmem => .inl hmem
    | cons first rest ih =>
        intro kept hmem
        rw [List.foldl_cons] at hmem
        rcases ih _ hmem with hmem | ⟨hmem, hne⟩
        · by_cases hdots : first = ".."
          · rw [if_pos (beq_iff_eq.mpr hdots)] at hmem
            exact .inl (List.dropLast_subset _ hmem)
          · rw [if_neg (mt beq_iff_eq.mp hdots), List.mem_append,
              List.mem_singleton] at hmem
            refine hmem.imp_right fun heq => ?_
            rw [heq]
            exact ⟨List.mem_cons_self, hdots⟩
        · exact .inr ⟨List.mem_cons_of_mem first hmem, hne⟩
  exact (hkept path.parts [] hname).resolve_left List.not_mem_nil

/-- Without links a path leads where its components say, once double dots
are taken out. -/
theorem resolve?_withoutDots (hlinks : fs.links = []) (hnormal : path.Normal)
    (habsolute : path.isAbsolute = true) :
    fs.resolve? (withoutDots path).toText = some (withoutDots path).parts := by
  have hparts : ∀ name ∈ (withoutDots path).parts,
      name ∈ path.parts ∧ name ≠ ".." :=
    fun _ hname => mem_parts_withoutDots habsolute hname
  refine resolve?_of_links_nil hlinks ⟨hnormal.root, fun part hpart => ?_⟩
    habsolute fun name hname => ?_
  · exact hnormal.parts part (hparts part hpart).1
  · obtain ⟨hmem, hdots⟩ := hparts name hname
    exact ⟨(hnormal.parts name hmem).2.1, hdots⟩

-- ================================================================ writing

/-- Paths lead where they led. -/
theorem resolve?_append (fs : FileSystem) (p : FilePath)
    (bytes : List UInt8) (path : String) :
    (fs.append p bytes).resolve? path = fs.resolve? path := by
  unfold append
  split <;> rfl

/-- Other entries than the one that is written stay. -/
theorem entry?_append_of_ne (hne : q ≠ p) (bytes : List UInt8) :
    entry? (fs.append p bytes) q = fs.entry? q := by
  unfold append
  split
  next old hold =>
    have hp : p ∈ keys fs.entries :=
      List.mem_map.mpr ⟨_, mem_entries_of_file hold, rfl⟩
    unfold entry?
    rw [lookup_entries_set hne, hasBelow_set hp]
  next => rfl

theorem bytesOf_append_of_ne (hne : q ≠ p) (bytes : List UInt8) :
    (fs.append p bytes).bytesOf q = fs.bytesOf q := by
  unfold bytesOf
  rw [entry?_append_of_ne hne]

/-- Bytes are added to a file that is open, if they are kept there. -/
theorem bytesOf_append (hopen : fs.IsOpen p) (hkeeps : fs.Keeps p)
    (bytes : List UInt8) :
    (fs.append p bytes).bytesOf p = fs.bytesOf p ++ bytes := by
  obtain ⟨e, hlookup, hne⟩ := hopen
  have hentry := entry?_of_lookup hlookup
  cases e with
  | file old =>
      unfold bytesOf append
      rw [hentry]
      dsimp only
      rw [entry?_of_lookup lookup_entries_set_self]
  | directory => exact absurd rfl hne
  | pipe => exact absurd hentry hkeeps.1
  | device => exact absurd hentry hkeeps.2

/-- What is open stays open when something is written. -/
theorem IsOpen.append (h : fs.IsOpen q) (p : FilePath)
    (bytes : List UInt8) : (fs.append p bytes).IsOpen q := by
  unfold FileSystem.append
  split
  next =>
    by_cases hne : q = p
    · subst hne
      exact ⟨_, lookup_entries_set_self, nofun⟩
    · unfold IsOpen
      rw [lookup_entries_set hne]
      exact h
  next => exact h

/-- What is kept stays kept when something is written. -/
theorem Keeps.append (h : fs.Keeps q) (p : FilePath)
    (bytes : List UInt8) : (fs.append p bytes).Keeps q := by
  by_cases hne : q = p
  · subst hne
    unfold FileSystem.append
    split
    next =>
      unfold Keeps
      rw [entry?_of_lookup lookup_entries_set_self]
      exact ⟨nofun, nofun⟩
    next => exact h
  · unfold Keeps
    rw [entry?_append_of_ne hne]
    exact h

end Outline.FileSystem
