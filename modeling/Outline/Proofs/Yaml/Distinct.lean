/-
No mapping of a document has a key twice.

A document may give a key several times, directly or by merging other
mappings into its own, and a mapping that is merged is not built first.
But whatever is collected is put in its place key by key, so that what is
built of a node is distinct, on every level (`Node.distinct_build`).
-/
import Outline.Proofs.Value.Distinct
import Outline.Yaml.Document

namespace Outline

open Keyed

/-- What succeeded succeeded step by step. -/
theorem exists_of_bind_eq_ok {ε α β : Type} {x : Except ε α}
    {f : α → Except ε β} {b : β} (h : x >>= f = .ok b) :
    ∃ a, x = .ok a ∧ f a = .ok b := by
  cases x with
  | error e => cases h
  | ok a => exact ⟨a, rfl, h⟩

-- ================================================================== nodes

namespace Yaml

theorem distinct_of_map {ε α : Type} {x : Except ε α} {f : α → Value}
    {v : Value} (hf : ∀ a, (Key.ofValue? (f a)).isSome = true)
    (h : x.map f = .ok v) : v.Distinct := by
  cases x with
  | error e => cases h
  | ok a =>
      cases h
      exact .scalar (hf a)

/-- A time is a scalar. -/
theorem distinct_timeOf {s : String} {v : Value} (h : timeOf s = .ok v) :
    v.Distinct := by
  unfold timeOf at h
  split at h
  next => cases h
  next t _ =>
    split at h
    next =>
      obtain ⟨date, -, h⟩ := exists_of_bind_eq_ok h
      cases h
      exact .scalar rfl
    next hour minute second _ =>
      -- a time is refused unless its zone and its parts are in range
      by_cases hzone : dayMinutes ≤ ((t.zone.getD 0).natAbs : Int)
      · rw [if_pos hzone] at h
        cases h
      · rw [if_neg hzone] at h
        obtain ⟨date, -, h⟩ := exists_of_bind_eq_ok h
        by_cases hhour : 23 < hour
        · rw [if_pos hhour] at h
          cases h
        · by_cases hminute : 59 < minute
          · rw [if_neg hhour, if_pos hminute] at h
            cases h
          · by_cases hsecond : 59 < second
            · rw [if_neg hhour, if_neg hminute, if_pos hsecond] at h
              cases h
            · rw [if_neg hhour, if_neg hminute, if_neg hsecond] at h
              cases h
              exact .scalar rfl

/-- A scalar is a scalar, whatever its form. -/
theorem distinct_scalarValue {tag : Option String} {plain : Bool} {s : String}
    {v : Value} (h : scalarValue tag plain s = .ok v) : v.Distinct := by
  unfold scalarValue at h
  split at h
  next form _ =>
    cases form with
    | null => cases h; exact .scalar rfl
    | bool => exact distinct_of_map (fun _ => rfl) h
    | int => exact distinct_of_map (fun _ => rfl) h
    | float => exact distinct_of_map (fun _ => rfl) h
    | timestamp => exact distinct_timeOf h
    | text => cases h; exact .scalar rfl
    | binary => exact distinct_of_map (fun _ => rfl) h
    | merge => cases h
    | default => cases h
  next => cases h

mutual

/-- What is built of a node is distinct. -/
theorem Node.distinct_build (level : Nat) :
    ∀ n : Node, (n.build level).value.Distinct
  | .scalar tag plain s => by
      rw [Node.build]
      split
      next v hv => exact distinct_scalarValue hv
      next => exact .scalar rfl
  | .sequence tag items => by
      rw [Node.build]
      split
      next => exact .list (Node.distinct_buildItems (level + 1) items)
      next =>
        split
        next => exact .list (Node.distinct_buildPairs (level + 1) items)
        next => exact .scalar rfl
  | .mapping tag entries => by
      rw [Node.build]
      split
      next =>
        obtain ⟨hmerged, hown⟩ :=
          Node.distinct_buildEntries (level + 1) entries
        exact Entries.distinct_foldl_put
          (List.forall_mem_append.mpr ⟨hmerged, hown⟩)
          (.map List.nodup_nil fun _ he => nomatch he)
      next =>
        split
        next =>
          refine .group fun v hv => ?_
          obtain ⟨k, -, rfl⟩ := List.mem_map.mp hv
          exact .scalar k.isSome_ofValue?
        next => exact .scalar rfl

theorem Node.distinct_buildItems (level : Nat) :
    ∀ items : List Node, ∀ v ∈ (Node.buildItems level items).value, v.Distinct
  | [] => fun _ hv => nomatch hv
  | n :: rest => by
      rw [Node.buildItems]
      exact List.forall_mem_cons.mpr
        ⟨Node.distinct_build level n, Node.distinct_buildItems level rest⟩

theorem Node.distinct_buildPairs (level : Nat) :
    ∀ items : List Node, ∀ v ∈ (Node.buildPairs level items).value, v.Distinct
  | [] => fun _ hv => nomatch hv
  | .mapping _ entries :: rest => by
      rw [Node.buildPairs]
      exact List.forall_mem_cons.mpr
        ⟨Node.distinct_buildPair level entries,
          Node.distinct_buildPairs level rest⟩
  | .sequence .. :: rest => by
      rw [Node.buildPairs]
      · exact List.forall_mem_cons.mpr
          ⟨.scalar rfl, Node.distinct_buildPairs level rest⟩
      · exact nofun
  | .scalar .. :: rest => by
      rw [Node.buildPairs]
      · exact List.forall_mem_cons.mpr
          ⟨.scalar rfl, Node.distinct_buildPairs level rest⟩
      · exact nofun

theorem Node.distinct_buildPair (level : Nat) :
    ∀ entries : List (Node × Node),
      (Node.buildPair level entries).value.Distinct
  | [] => .scalar rfl
  | [(k, v)] => by
      rw [Node.buildPair]
      refine .group (List.forall_mem_cons.mpr
        ⟨Node.distinct_build level k, List.forall_mem_cons.mpr
          ⟨Node.distinct_build level v, fun _ hw => nomatch hw⟩⟩)
  | _ :: _ :: _ => .scalar rfl

theorem Node.distinct_buildEntries (level : Nat) :
    ∀ entries : List (Node × Node),
      (∀ e ∈ (Node.buildEntries level entries).value.1, e.2.Distinct)
      ∧ ∀ e ∈ (Node.buildEntries level entries).value.2, e.2.Distinct
  | [] => ⟨fun _ he => (nomatch he), fun _ he => (nomatch he)⟩
  | (k, v) :: rest => by
      obtain ⟨hmerged, hown⟩ := Node.distinct_buildEntries level rest
      unfold Node.buildEntries
      dsimp only
      split
      next =>
        exact ⟨List.forall_mem_append.mpr
          ⟨Node.distinct_merged level v, hmerged⟩, hown⟩
      next =>
        refine ⟨hmerged, List.forall_mem_append.mpr ⟨fun e he => ?_, hown⟩⟩
        obtain ⟨_, -, rfl⟩ := List.mem_map.mp he
        exact Node.distinct_build level v

theorem Node.distinct_merged (level : Nat) :
    ∀ n : Node, ∀ e ∈ (n.merged level).value, e.2.Distinct
  | .mapping _ entries => by
      rw [Node.merged]
      exact List.forall_mem_append.mpr
        (Node.distinct_buildEntries level entries)
  | .sequence _ items => by
      rw [Node.merged]
      exact Node.distinct_mergedItems level items
  | .scalar .. => by
      rw [Node.merged]
      exact fun _ he => nomatch he

theorem Node.distinct_mergedItems (level : Nat) :
    ∀ items : List Node, ∀ e ∈ (Node.mergedItems level items).value,
      e.2.Distinct
  | [] => fun _ he => nomatch he
  | .mapping _ entries :: rest => by
      rw [Node.mergedItems]
      exact List.forall_mem_append.mpr
        ⟨Node.distinct_mergedItems level rest, List.forall_mem_append.mpr
          (Node.distinct_buildEntries level entries)⟩
  | .sequence .. :: rest => by
      rw [Node.mergedItems]
      · exact List.forall_mem_append.mpr
          ⟨Node.distinct_mergedItems level rest, fun _ he => nomatch he⟩
      · exact nofun
  | .scalar .. :: rest => by
      rw [Node.mergedItems]
      · exact List.forall_mem_append.mpr
          ⟨Node.distinct_mergedItems level rest, fun _ he => nomatch he⟩
      · exact nofun

end

/-- A document that was read is distinct. -/
theorem distinct_read {text : String} {v : Value} (h : read text = .ok v) :
    v.Distinct := by
  unfold read at h
  dsimp only at h
  split at h
  next => cases h
  next =>
    obtain ⟨tokens, -, h⟩ := exists_of_bind_eq_ok h
    obtain ⟨node?, -, h⟩ := exists_of_bind_eq_ok h
    cases node? with
    | none =>
        cases h
        exact .scalar rfl
    | some node =>
        dsimp only at h
        split at h
        next => cases h
        next =>
          cases h
          exact node.distinct_build 0

end Yaml

end Outline
