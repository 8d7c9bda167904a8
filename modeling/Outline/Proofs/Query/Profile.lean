/-
What a pattern captures, read off the pattern.

The captures of an embedding depend on where it goes, but their names do
not, and neither does what is asked of the nodes they are on. A profile
lists both. A pattern has one profile for each way to choose among its
alternatives, and every embedding of it has captures that one of them
describes (`exists_profile`). Profiles can be computed, so facts about
the captures of a whole query are settled by looking at its patterns.
-/
import Outline.Proofs.Query.Enumeration

namespace Outline

/-- Capture names in the order of a pattern, each with the test of the
node it is on. -/
abbrev Profile := List (String × NodeTest)

/-- A profile describes captures one by one. -/
def Profile.Describes (F : Forest) (profile : Profile)
    (captures : List Capture) : Prop :=
  List.Forall₂ (fun entry c =>
    c.name = entry.1 ∧ ∃ n, c.node = some n ∧ entry.2.Holds F n)
    profile captures

namespace Pattern

mutual

/-- The profiles of a pattern. `outer` are capture names given to the
root from outside. -/
def profiles (outer : List String) : Pattern → List Profile
  | .node _ test captures children =>
    (childProfiles children).map ((captures ++ outer).map (·, test) ++ ·)
  | .anyOf _ captures alternatives =>
    anyProfiles (captures ++ outer) alternatives

/-- The profiles of child patterns together. -/
def childProfiles : List (Bool × Pattern) → List Profile
  | [] => [[]]
  | (_, p) :: rest =>
    (profiles [] p).flatMap fun first => (childProfiles rest).map (first ++ ·)

/-- The profiles of any of several patterns. -/
def anyProfiles (outer : List String) : List Pattern → List Profile
  | [] => []
  | p :: rest => profiles outer p ++ anyProfiles outer rest

end

variable {F : Forest} {g : Grammar}

/-- The captures on one node are described by its test. -/
theorem describes_placement {test : NodeTest} {n : NodeId}
    (h : test.Holds F n) (names : List String) :
    Profile.Describes F (names.map (·, test))
      (Assignment.captures [⟨names, n⟩]) := by
  simp only [Profile.Describes, Assignment.captures, List.flatMap_singleton,
    List.forall₂_map_left_iff, List.forall₂_map_right_iff]
  exact List.forall₂_same.mpr fun _ _ => ⟨rfl, n, rfl, h⟩

theorem captures_append (a b : Assignment) :
    Assignment.captures (a ++ b)
      = Assignment.captures a ++ Assignment.captures b :=
  List.flatMap_append

mutual

/-- The captures of an embedding are described by a profile of the
pattern. -/
theorem exists_profile :
    ∀ {p : Pattern} {s : Sending}, p.Embeds F g s → ∀ outer : List String,
      ∃ profile ∈ profiles outer p,
        profile.Describes F (placements outer p s).captures
  | .node label test captures children, _, .node _ _ holds _ embeds, outer => by
      obtain ⟨profile, hprofile, hdescribes⟩ := exists_childProfile embeds
      refine ⟨(captures ++ outer).map (·, test) ++ profile, ?_, ?_⟩
      · rw [profiles]
        exact List.mem_map_of_mem hprofile
      · rw [placements, ← List.singleton_append, captures_append]
        exact List.rel_append (describes_placement holds _) hdescribes
  | .anyOf label captures alternatives, _, .anyOf _ chosen embeds, outer => by
      rw [profiles, placements]
      exact exists_anyProfile chosen embeds (captures ++ outer)

theorem exists_childProfile :
    ∀ {children : List (Bool × Pattern)} {below : List Sending},
      List.Forall₂ (fun child s => child.2.Embeds F g s) children below →
      ∃ profile ∈ childProfiles children,
        Profile.Describes F profile (childPlacements children below).captures
  | [], _, .nil => ⟨[], by simp [childProfiles], by
      rw [childPlacements]
      exact .nil⟩
  | (_, p) :: rest, _, .cons embeds hrest => by
      obtain ⟨first, hfirst, hdescribes⟩ := exists_profile embeds []
      obtain ⟨others, hothers, hdescribesOthers⟩ := exists_childProfile hrest
      refine ⟨first ++ others, ?_, ?_⟩
      · rw [childProfiles, List.mem_flatMap]
        exact ⟨first, hfirst, List.mem_map_of_mem hothers⟩
      · rw [childPlacements, captures_append]
        exact List.rel_append hdescribes hdescribesOthers

theorem exists_anyProfile {s : Sending} :
    ∀ {ps : List Pattern} {i : Nat} {p : Pattern}, ps[i]? = some p →
      p.Embeds F g s → ∀ outer : List String,
      ∃ profile ∈ anyProfiles outer ps,
        profile.Describes F (anyPlacements outer ps i s).captures
  | [], _, _, h, _, _ => by simp at h
  | p :: ps, 0, _, h, embeds, outer => by
      cases h
      obtain ⟨profile, hprofile, hdescribes⟩ := exists_profile embeds outer
      rw [anyProfiles, anyPlacements]
      exact ⟨profile, List.mem_append_left _ hprofile, hdescribes⟩
  | p :: ps, i + 1, q, h, embeds, outer => by
      have hq : ps[i]? = some q := h
      obtain ⟨profile, hprofile, hdescribes⟩ :=
        exists_anyProfile hq embeds outer
      rw [anyProfiles, anyPlacements]
      exact ⟨profile, List.mem_append_right _ hprofile, hdescribes⟩

end

end Pattern

end Outline
