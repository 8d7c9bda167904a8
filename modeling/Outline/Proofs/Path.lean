/-
A path is read back from its own text.

Reading a path text drops what a path does not have, so that the text of
a path has nothing left to drop: its components hold no slash, and none
is empty or a single dot (`Normal`). What such a path is written as is
read as the path itself (`Normal.ofText_toText`); so a path text and its
normal form have the same extension (`extensionOf_normalPath`).
-/
import Outline.Path

namespace Outline

namespace LexicalPath

/-- No piece of a split text holds the character it was split at. -/
theorem not_mem_of_mem_splitOn {a : Char} {cs part : List Char}
    (h : part ∈ cs.splitOn a) : a ∉ part := by
  induction cs generalizing part with
  | nil =>
      rw [List.splitOn_nil, List.mem_singleton] at h
      rw [h]
      exact List.not_mem_nil
  | cons c rest ih =>
      rw [List.splitOn_cons_eq_if_modifyHead] at h
      split at h
      next =>
        rcases List.mem_cons.mp h with rfl | h
        · exact List.not_mem_nil
        · exact ih h
      next hc =>
        -- the character goes to the front of the first piece
        cases hsplit : rest.splitOn a with
        | nil => exact absurd hsplit (List.splitOn_ne_nil a rest)
        | cons first others =>
            rw [hsplit] at h ih
            rcases List.mem_cons.mp h with rfl | h
            · rw [List.mem_cons, not_or]
              exact ⟨fun heq => hc (beq_iff_eq.mpr heq.symm),
                ih List.mem_cons_self⟩
            · exact ih (List.mem_cons_of_mem first h)

/-- A slash separates components. -/
theorem components_append (cs ds : List Char) :
    components (cs ++ '/' :: ds) = components cs ++ components ds := by
  unfold components List.splitOn
  rw [List.splitOnP_append_cons (p := (· == '/')) cs ds rfl,
    List.filter_append]

/-- A path whose text has nothing to drop. -/
structure Normal (p : LexicalPath) : Prop where
  root : p.root = "" ∨ p.root = "/" ∨ p.root = "//"
  parts : ∀ part ∈ p.parts, part ≠ "" ∧ part ≠ "." ∧ '/' ∉ part.toList

theorem parts_ofText (s : String) :
    (ofText s).parts = (components s.toList).map String.ofList := rfl

theorem normal_ofText (s : String) : (ofText s).Normal := by
  constructor
  · unfold ofText rootOf
    split <;> simp
  · intro part hpart
    obtain ⟨cs, hcs, rfl⟩ := List.mem_map.mp hpart
    obtain ⟨hsplit, hkept⟩ := List.mem_filter.mp hcs
    simp only [Bool.and_eq_true, bne_iff_ne] at hkept
    rw [String.toList_ofList]
    refine ⟨fun h => hkept.1 ?_, fun h => hkept.2 ?_,
      not_mem_of_mem_splitOn hsplit⟩
    · simpa using congrArg String.toList h
    · simpa using congrArg String.toList h

namespace Normal

variable {p : LexicalPath}

/-- Before a text that starts with no slash a root is read as itself. -/
theorem rootOf_append (h : p.Normal) {body : List Char}
    (hbody : body.head? ≠ some '/') :
    rootOf (p.root.toList ++ body) = p.root := by
  cases body with
  | nil => rcases h.root with hroot | hroot | hroot <;> rw [hroot] <;> rfl
  | cons c rest =>
      have hc : c ≠ '/' := fun heq => hbody (by rw [heq]; rfl)
      rcases h.root with hroot | hroot | hroot <;> rw [hroot] <;>
        simp [rootOf, hc]

/-- Slashes at the beginning make no component. -/
theorem components_root_append (h : p.Normal) (body : List Char) :
    components (p.root.toList ++ body) = components body := by
  have hslash : ∀ cs, components ('/' :: cs) = components cs :=
    components_append []
  rcases h.root with hroot | hroot | hroot <;> rw [hroot]
  · rfl
  · exact hslash body
  · exact (hslash _).trans (hslash body)

/-- Components with slashes between them are read as they are. -/
theorem components_intercalate (h : p.Normal) :
    components (['/'].intercalate (p.parts.map String.toList))
      = p.parts.map String.toList := by
  have hkept : ∀ cs ∈ p.parts.map String.toList,
      (cs != [] && cs != ['.']) = true ∧ '/' ∉ cs := by
    intro cs hcs
    obtain ⟨part, hpart, rfl⟩ := List.mem_map.mp hcs
    obtain ⟨hempty, hdot, hslash⟩ := h.parts part hpart
    simp only [Bool.and_eq_true, bne_iff_ne]
    refine ⟨⟨fun heq => hempty ?_, fun heq => hdot ?_⟩, hslash⟩
    · exact String.toList_injective heq
    · exact String.toList_injective heq
  by_cases hnil : p.parts.map String.toList = []
  · rw [hnil]
    rfl
  · rw [components,
      List.splitOn_intercalate '/' (fun cs hcs => (hkept cs hcs).2) hnil,
      List.filter_eq_self]
    exact fun cs hcs => (hkept cs hcs).1

theorem head?_intercalate (h : p.Normal) :
    (['/'].intercalate (p.parts.map String.toList)).head? ≠ some '/' := by
  cases hparts : p.parts with
  | nil => exact nofun
  | cons part rest =>
      obtain ⟨hempty, -, hslash⟩ := h.parts part (by rw [hparts]; simp)
      cases hchars : part.toList with
      | nil => exact absurd (String.toList_injective hchars) hempty
      | cons c cs =>
          have hc : c ≠ '/' := by
            rintro rfl
            exact hslash (by rw [hchars]; exact List.mem_cons_self)
          cases rest <;> simp [List.intercalate, hchars, hc]

/-- The text of a path with a root or a component. -/
theorem toList_toText (h : p.Normal) (hsome : ¬(p.root = "" ∧ p.parts = [])) :
    p.toText.toList
      = p.root.toList ++ ['/'].intercalate (p.parts.map String.toList) := by
  have hbody : (p.root ++ "/".intercalate p.parts).toList
      = p.root.toList ++ ['/'].intercalate (p.parts.map String.toList) := by
    rw [String.toList_append, String.toList_intercalate]
    rfl
  rw [toText, if_neg, hbody]
  intro hempty
  have hnil := congrArg String.toList (String.isEmpty_iff.mp hempty)
  rw [hbody, String.toList_empty, List.append_eq_nil_iff] at hnil
  refine hsome ⟨String.toList_injective hnil.1, ?_⟩
  -- the text would read as no component at all
  have hparts := h.components_intercalate
  rw [hnil.2] at hparts
  exact List.map_eq_nil_iff.mp hparts.symm

/-- A path is read back from its text. -/
theorem ofText_toText (h : p.Normal) : ofText p.toText = p := by
  by_cases hbare : p.root = "" ∧ p.parts = []
  · -- nothing at all is written as a dot
    obtain ⟨root, parts⟩ := p
    obtain ⟨hroot, hparts⟩ := hbare
    cases hroot
    cases hparts
    rfl
  · have hparts : (p.parts.map String.toList).map String.ofList = p.parts := by
      rw [List.map_map]
      exact (List.map_congr_left fun part _ => String.ofList_toList).trans
        (List.map_id _)
    rw [ofText, h.toList_toText hbare, h.rootOf_append h.head?_intercalate,
      h.components_root_append, h.components_intercalate, hparts]

/-- The text of a path is in normal form. -/
theorem normalPath_toText (h : p.Normal) : normalPath p.toText = p.toText := by
  rw [normalPath, h.ofText_toText]

end Normal

end LexicalPath

/-- The extension of a path is that of its normal form. -/
theorem extensionOf_normalPath (s : String) :
    extensionOf (normalPath s) = extensionOf s := by
  have hread := (LexicalPath.normal_ofText s).ofText_toText
  have hparts := congrArg LexicalPath.parts hread
  rw [LexicalPath.parts_ofText, LexicalPath.parts_ofText] at hparts
  have hcomponents : LexicalPath.components (normalPath s).toList
      = LexicalPath.components s.toList :=
    (List.map_inj_right fun _ _ => String.ofList_injective).mp hparts
  rw [extensionOf, extensionOf, hcomponents]

end Outline
