/-
Following the text of a path.

A path text is taken apart at its slashes and followed name by name. The
names of entries hold no slash and are neither empty nor dots (`IsName`),
so a path that continues another one by such names is in its normal form
again.

Where a path leads depends on what stands on the way, and on what the
system permits; but if it leads anywhere, links and dots alone decide
where (`FileSystem.resolve?_of_locate`). Files and directories that are
made later do not change that.
-/
import Outline.Proofs.Files.Listing

namespace Outline

-- ================================================================== names

/-- What an entry of a directory may be called. -/
structure IsName (name : String) : Prop where
  nonempty : name ≠ ""
  dot : name ≠ "."
  dots : name ≠ ".."
  slash : '/' ∉ name.toList
  null : '\x00' ∉ name.toList

instance : DecidablePred IsName := fun name =>
  decidable_of_iff (name ≠ "" ∧ name ≠ "." ∧ name ≠ ".."
      ∧ '/' ∉ name.toList ∧ '\x00' ∉ name.toList)
    ⟨fun ⟨h₁, h₂, h₃, h₄, h₅⟩ => ⟨h₁, h₂, h₃, h₄, h₅⟩,
      fun ⟨h₁, h₂, h₃, h₄, h₅⟩ => ⟨h₁, h₂, h₃, h₄, h₅⟩⟩

/-- A file system whose entries and links have proper names. -/
def FileSystem.WellNamed (fs : FileSystem) : Prop :=
  ∀ p ∈ fs.names, ∀ name ∈ p, IsName name

instance : DecidablePred FileSystem.WellNamed := fun fs =>
  inferInstanceAs (Decidable (∀ p ∈ fs.names, ∀ name ∈ p, IsName name))

namespace LexicalPath

variable {p : LexicalPath} {steps : List String}

theorem Normal.descend (h : p.Normal) (hsteps : ∀ name ∈ steps, IsName name) :
    (p.descend steps).Normal := by
  refine ⟨h.root, fun part hpart => ?_⟩
  rcases List.mem_append.mp hpart with hpart | hpart
  · exact h.parts part hpart
  · have hname := hsteps part hpart
    exact ⟨hname.nonempty, hname.dot, hname.slash⟩

theorem mem_intercalate {a c : Char} {pieces : List (List Char)}
    (h : c ∈ [a].intercalate pieces) :
    c = a ∨ ∃ piece ∈ pieces, c ∈ piece := by
  induction pieces with
  | nil => cases h
  | cons piece rest ih =>
      cases rest with
      | nil =>
          rw [List.intercalate_singleton] at h
          exact .inr ⟨piece, List.mem_cons_self, h⟩
      | cons second others =>
          rw [List.intercalate_cons_cons, List.append_assoc, List.mem_append,
            List.mem_append, List.mem_singleton] at h
          rcases h with h | rfl | h
          · exact .inr ⟨piece, List.mem_cons_self, h⟩
          · exact .inl rfl
          · refine (ih h).imp_right ?_
            rintro ⟨other, hother, hc⟩
            exact ⟨other, List.mem_cons_of_mem piece hother, hc⟩

/-- The characters of a path text are those of its components, and
slashes and dots. -/
theorem Normal.mem_toText (h : p.Normal) {c : Char}
    (hc : c ∈ p.toText.toList) :
    c = '/' ∨ c = '.' ∨ ∃ part ∈ p.parts, c ∈ part.toList := by
  by_cases hbare : p.root = "" ∧ p.parts = []
  · rw [toText, hbare.1, hbare.2] at hc
    exact .inr (.inl (List.mem_singleton.mp hc))
  · rw [h.toList_toText hbare, List.mem_append] at hc
    rcases hc with hc | hc
    · left
      rcases h.root with hroot | hroot | hroot <;> rw [hroot] at hc
      · cases hc
      · exact List.mem_singleton.mp hc
      · simpa using hc
    · refine (mem_intercalate hc).imp_right fun hpiece => .inr ?_
      obtain ⟨_, hmem, hc⟩ := hpiece
      obtain ⟨part, hpart, rfl⟩ := List.mem_map.mp hmem
      exact ⟨part, hpart, hc⟩

/-- The characters of a piece of a split text stand in the text. -/
theorem mem_of_mem_splitOn {a c : Char} {cs part : List Char}
    (h : part ∈ cs.splitOn a) (hc : c ∈ part) : c ∈ cs := by
  induction cs generalizing part with
  | nil =>
      rw [List.splitOn_nil, List.mem_singleton] at h
      rwa [h] at hc
  | cons d rest ih =>
      rw [List.splitOn_cons_eq_if_modifyHead] at h
      split at h
      next =>
        rcases List.mem_cons.mp h with rfl | h
        · cases hc
        · exact List.mem_cons_of_mem d (ih h hc)
      next =>
        cases hsplit : rest.splitOn a with
        | nil => exact absurd hsplit (List.splitOn_ne_nil a rest)
        | cons first others =>
            rw [hsplit] at h ih
            rcases List.mem_cons.mp h with rfl | h
            · rcases List.mem_cons.mp hc with rfl | hc
              · exact List.mem_cons_self
              · exact List.mem_cons_of_mem d (ih List.mem_cons_self hc)
            · exact List.mem_cons_of_mem d
                (ih (List.mem_cons_of_mem first h) hc)

/-- No character is made up when a path is read. -/
theorem mem_of_mem_parts {s part : String} (hpart : part ∈ (ofText s).parts)
    {c : Char} (hc : c ∈ part.toList) : c ∈ s.toList := by
  obtain ⟨piece, hpiece, rfl⟩ := List.mem_map.mp hpart
  rw [String.toList_ofList] at hc
  exact mem_of_mem_splitOn (List.mem_of_mem_filter hpiece) hc

theorem Normal.head?_toText (h : p.Normal) :
    (p.toText.toList.head? == some '/') = p.isAbsolute := by
  by_cases hbare : p.root = "" ∧ p.parts = []
  · obtain ⟨root, parts⟩ := p
    obtain ⟨hroot, hparts⟩ := hbare
    cases hroot
    cases hparts
    rfl
  · rw [h.toList_toText hbare, isAbsolute]
    rcases h.root with hroot | hroot | hroot <;> rw [hroot]
    · exact beq_eq_false_iff_ne.mpr h.head?_intercalate
    · rfl
    · rfl

theorem exists_getLast?_intercalate {pieces : List (List Char)}
    (hnil : pieces ≠ []) (h : ∀ cs ∈ pieces, cs ≠ [] ∧ '/' ∉ cs) :
    ∃ c, (['/'].intercalate pieces).getLast? = some c ∧ c ≠ '/' := by
  induction pieces with
  | nil => exact absurd rfl hnil
  | cons piece rest ih =>
      obtain ⟨hpiece, hrest⟩ := List.forall_mem_cons.mp h
      cases rest with
      | nil =>
          refine ⟨piece.getLast hpiece.1, ?_, fun heq => hpiece.2 ?_⟩
          · rw [List.intercalate_singleton, List.getLast?_eq_some_getLast]
          · rw [← heq]
            exact List.getLast_mem hpiece.1
      | cons second others =>
          obtain ⟨c, hc, hne⟩ := ih nofun hrest
          refine ⟨c, ?_, hne⟩
          rw [List.intercalate_cons_cons, List.getLast?_append, hc,
            Option.some_or]

/-- Components are separated by slashes, and there is none at the end. -/
theorem Normal.stepsOf_toText (h : p.Normal) (hparts : p.parts ≠ []) :
    FileSystem.stepsOf p.toText = p.parts := by
  have hbare : ¬(p.root = "" ∧ p.parts = []) := fun hbare => hparts hbare.2
  have hkept : ∀ cs ∈ p.parts.map String.toList, cs ≠ [] ∧ '/' ∉ cs := by
    intro cs hcs
    obtain ⟨part, hpart, rfl⟩ := List.mem_map.mp hcs
    obtain ⟨hempty, -, hslash⟩ := h.parts part hpart
    exact ⟨fun hnil => hempty (String.toList_injective hnil), hslash⟩
  have hnil : p.parts.map String.toList ≠ [] :=
    fun hnil => hparts (List.map_eq_nil_iff.mp hnil)
  have hslash : ∀ cs : List Char, (('/' :: cs).splitOn '/').filter (· != [])
      = (cs.splitOn '/').filter (· != []) := by
    intro cs
    rw [List.splitOn_cons_eq_if_modifyHead, if_pos (beq_self_eq_true '/')]
    rfl
  have hbody : ((['/'].intercalate (p.parts.map String.toList)).splitOn
      '/').filter (· != []) = p.parts.map String.toList := by
    rw [List.splitOn_intercalate '/' (fun cs hcs => (hkept cs hcs).2) hnil,
      List.filter_eq_self]
    exact fun cs hcs => bne_iff_ne.mpr (hkept cs hcs).1
  have hnames : (p.toText.toList.splitOn '/').filter (· != [])
      = p.parts.map String.toList := by
    rw [h.toList_toText hbare]
    rcases h.root with hroot | hroot | hroot <;> rw [hroot]
    · exact hbody
    · exact (hslash _).trans hbody
    · exact (hslash _).trans ((hslash _).trans hbody)
  have hlast : p.toText.toList.getLast? ≠ some '/' := by
    obtain ⟨c, hc, hne⟩ := exists_getLast?_intercalate hnil hkept
    rw [h.toList_toText hbare, List.getLast?_append, hc]
    exact fun heq => hne (Option.some.inj heq)
  rw [FileSystem.stepsOf, if_neg (by simpa using hlast), hnames, List.map_map]
  exact (List.map_congr_left fun part _ => String.ofList_toList).trans
    (List.map_id _)

theorem Normal.stepsOf_root (h : p.Normal) (hparts : p.parts = []) :
    FileSystem.stepsOf p.toText = ["."] := by
  obtain ⟨root, parts⟩ := p
  cases hparts
  rcases h.root with hroot | hroot | hroot <;> cases hroot <;> rfl

end LexicalPath

namespace FileSystem

variable {fs : FileSystem} {p : LexicalPath} {here place : FilePath}
  {steps : List String} {new : Bool} {budget : Nat}

/-- What a search comes by has proper names. -/
theorem WellNamed.isName (h : fs.WellNamed) (hne : steps ≠ [])
    (hstands : fs.Stands (place ++ steps)) :
    ∀ name ∈ steps, IsName name := by
  have hnil : place ++ steps ≠ [] :=
    fun hnil => hne (List.append_eq_nil_iff.mp hnil).2
  obtain ⟨more, hmore⟩ := (stands_iff hnil).mp hstands
  exact fun name hname => h _ hmore name
    (List.mem_append_left more (List.mem_append_right place hname))

-- ================================================================== links

/-- Where components lead up to a link, and from there by `go`, as far as
links and dots decide it. -/
def resolveBy (links : List (FilePath × String))
    (go : FilePath → List String → Option FilePath) :
    FilePath → List String → Option FilePath
  | here, [] => some here
  | here, name :: rest =>
    match links.lookup (stepTo here name) with
    | some target => go (startOf target here) (stepsOf target ++ rest)
    | none => resolveBy links go (stepTo here name) rest

/-- Where components lead as far as links and dots decide it; nowhere if
there are more links on the way than are followed. -/
def resolveIn (links : List (FilePath × String)) :
    Nat → FilePath → List String → Option FilePath
  | 0 => resolveBy links fun _ _ => none
  | budget + 1 => resolveBy links (resolveIn links budget)

/-- Where a path text leads as far as links and dots decide it. -/
def resolve? (fs : FileSystem) (path : String) : Option FilePath :=
  resolveIn fs.links maxLinks (startOf path fs.current) (stepsOf path)

theorem eq_stepTo_of_step {name : String} {there : FilePath}
    (h : fs.step here name = .ok there) : there = stepTo here name := by
  unfold step at h
  split at h
  next => cases h
  next =>
    split at h
    next => cases h
    next =>
      split at h
      next => cases h
      next =>
        cases h
        rfl
  next => cases h

theorem resolveBy_of_walk
    {go : FilePath → List String → Except OsCause FilePath}
    {go' : FilePath → List String → Option FilePath}
    (hgo : ∀ here steps p, go here steps = .ok p → go' here steps = some p)
    (h : fs.walk new go here steps = .ok place) :
    resolveBy fs.links go' here steps = some place := by
  induction steps generalizing here with
  | nil =>
      rw [walk] at h
      split at h
      next =>
        cases h
        rfl
      next => cases h
  | cons name rest ih =>
      rw [walk] at h
      split at h
      next => cases h
      next there hstep =>
        rw [eq_stepTo_of_step hstep] at h
        rw [resolveBy]
        cases hlink : fs.links.lookup (stepTo here name) with
        | none =>
            rw [link?, hlink] at h
            exact ih h
        | some target =>
            rw [link?, hlink] at h
            exact hgo _ _ _ h

theorem resolveIn_of_follow
    (h : fs.follow new budget here steps = .ok place) :
    resolveIn fs.links budget here steps = some place := by
  induction budget generalizing here steps place with
  | zero =>
      refine resolveBy_of_walk (fun _ _ _ hgo => ?_) h
      cases hgo
  | succ budget ih => exact resolveBy_of_walk (fun _ _ _ hgo => ih hgo) h

/-- Links and dots alone decide where a path leads. -/
theorem resolve?_of_locate {path : String}
    (h : fs.locate new path = .ok place) : fs.resolve? path = some place := by
  unfold locate at h
  dsimp only at h
  -- a text that is empty or too long leads nowhere
  split at h
  next hresult =>
    split at hresult
    next => cases hresult
    next =>
      split at hresult
      next => cases hresult
      next =>
        cases h
        exact resolveIn_of_follow hresult
  next => cases h

theorem resolveBy_nil {go : FilePath → List String → Option FilePath}
    (hsteps : ∀ name ∈ steps, name ≠ "." ∧ name ≠ "..") :
    resolveBy [] go here steps = some (here ++ steps) := by
  induction steps generalizing here with
  | nil => rw [List.append_nil, resolveBy]
  | cons name rest ih =>
      obtain ⟨hname, hrest⟩ := List.forall_mem_cons.mp hsteps
      have hstep : stepTo here name = here ++ [name] := by
        simp [stepTo, hname.1, hname.2]
      rw [resolveBy, List.lookup_nil, hstep]
      dsimp only
      rw [ih hrest, List.append_assoc, List.singleton_append]

/-- Without links an absolute path without dots leads where it says. -/
theorem resolve?_of_links_nil (hlinks : fs.links = []) (hnormal : p.Normal)
    (habsolute : p.isAbsolute = true)
    (hparts : ∀ name ∈ p.parts, name ≠ "." ∧ name ≠ "..") :
    fs.resolve? p.toText = some p.parts := by
  rw [resolve?, hlinks, startOf, hnormal.head?_toText, if_pos habsolute]
  by_cases hnil : p.parts = []
  · -- a root is followed by a single dot
    rw [hnormal.stepsOf_root hnil, hnil]
    rfl
  · rw [hnormal.stepsOf_toText hnil, maxLinks, resolveIn, resolveBy_nil hparts,
      List.nil_append]

end FileSystem

end Outline
