/-
Values in which no mapping has a key twice.

Whatever is collected into a mapping goes through one door
(`Entries.put`), which replaces the value of a key that is there already.
Keys that are equal as numbers do not count as distinct, so distinctness
is a matter of the keys as they are compared (`Entries.canonical_put`).
-/
import Outline.Value.Basic

namespace Outline

-- ================================================================ entries

namespace Keyed

variable {κ β : Type} [DecidableEq κ]

theorem lookup_cons (key k : κ) (b : β) (l : List (κ × β)) :
    ((k, b) :: l).lookup key = if key = k then some b else l.lookup key := by
  rw [List.lookup_cons]
  by_cases h : key = k
  · rw [if_pos h, beq_iff_eq.mpr h]
  · rw [if_neg h, beq_eq_false_iff_ne.mpr h]

theorem lookup_eq_some_iff {key : κ} {b : β} {l : List (κ × β)}
    (h : (keys l).Nodup) : l.lookup key = some b ↔ (key, b) ∈ l := by
  constructor
  · intro hlookup
    obtain ⟨_, _, rfl, -⟩ := List.lookup_eq_some_iff.mp hlookup
    simp
  · intro hmem
    obtain ⟨before, after, rfl⟩ := List.append_of_mem hmem
    refine List.lookup_eq_some_iff.mpr ⟨before, after, rfl, fun p hp => ?_⟩
    rw [keys, List.map_append, List.nodup_append] at h
    rw [bne_iff_ne]
    rintro rfl
    exact h.2.2 _ (List.mem_map_of_mem hp) _ List.mem_cons_self rfl

theorem keys_put (key : κ) (b : β) (l : List (κ × β)) :
    keys (put key b l) = if key ∈ keys l then keys l else keys l ++ [key] := by
  induction l with
  | nil => rfl
  | cons entry rest ih =>
      obtain ⟨other, c⟩ := entry
      rw [put]
      by_cases hother : other = key
      · simp [hother]
      · rw [if_neg hother, keys, List.map_cons, ← keys, ih]
        by_cases hmem : key ∈ keys rest
        · simp [hmem]
        · simp [hmem, Ne.symm hother]

theorem nodup_put {l : List (κ × β)} (h : (keys l).Nodup) (key : κ)
    (b : β) : (keys (put key b l)).Nodup := by
  rw [keys_put]
  split
  next => exact h
  next hnew =>
    refine List.nodup_append.mpr ⟨h, by simp, fun k hk other hother => ?_⟩
    rw [List.mem_singleton.mp hother]
    exact fun heq => hnew (heq ▸ hk)

end Keyed

/-- A key is a scalar. -/
theorem Key.isSome_ofValue? (k : Key) :
    (Key.ofValue? k.toValue).isSome = true := by
  cases k <;> rfl

namespace Entries

theorem keys_canonical (entries : Entries) :
    Keyed.keys (canonical entries) = entries.keys.map Key.canonical := by
  rw [Keyed.keys, keys, List.map_map, List.map_map]
  rfl

theorem put_cons (key k : Key) (v w : Value) (rest : Entries) :
    put ((k, w) :: rest) key v
      = if k.canonical = key.canonical then (k, v) :: rest
        else (k, w) :: put rest key v := by
  by_cases h : k.canonical = key.canonical
  · simp [put, h, Keyed.put]
  · have hfound : ∀ e ∈ rest.find? (fun e => e.1.canonical = key.canonical),
        k ≠ e.1 := by
      rintro e he rfl
      exact h (by simpa using List.find?_some he)
    have hkey : k ≠ key := fun heq => h (heq ▸ rfl)
    rw [put, put, List.find?_cons_of_neg (by simpa using h), if_neg h]
    cases hrest : rest.find? (fun e => e.1.canonical = key.canonical) with
    | none => simp [Keyed.put, hkey]
    | some e => simp [Keyed.put, hfound e hrest]

theorem canonical_put (entries : Entries) (key : Key) (v : Value) :
    canonical (put entries key v)
      = Keyed.put key.canonical v (canonical entries) := by
  induction entries with
  | nil => rfl
  | cons entry rest ih =>
      obtain ⟨k, w⟩ := entry
      rw [put_cons, canonical, canonical, List.map_cons, Keyed.put,
        ← canonical, ← ih]
      split <;> rfl

theorem mem_put {entries : Entries} {key : Key} {v : Value} {e : Key × Value}
    (h : e ∈ put entries key v) : e.2 = v ∨ e ∈ entries := by
  induction entries with
  | nil =>
      rw [List.mem_singleton.mp h]
      exact .inl rfl
  | cons entry rest ih =>
      rw [put_cons] at h
      split at h
      next =>
        rcases List.mem_cons.mp h with rfl | h
        · exact .inl rfl
        · exact .inr (List.mem_cons_of_mem entry h)
      next =>
        rcases List.mem_cons.mp h with rfl | h
        · exact .inr List.mem_cons_self
        · exact (ih h).imp_right (List.mem_cons_of_mem entry)

end Entries

open Keyed

-- =============================================================== mappings

theorem Value.Distinct.nodup_canonical {entries : Entries}
    (h : (Value.map entries).Distinct) : (keys entries.canonical).Nodup := by
  cases h with
  | scalar hscalar => cases hscalar
  | map hnodup _ => exact hnodup

theorem Value.Distinct.nodup {entries : Entries}
    (h : (Value.map entries).Distinct) : entries.keys.Nodup :=
  List.Pairwise.of_map Key.canonical (fun _ _ hne heq => hne (heq ▸ rfl))
    (entries.keys_canonical ▸ h.nodup_canonical)

theorem Value.Distinct.of_mem {entries : Entries} {e : Key × Value}
    (h : (Value.map entries).Distinct) (he : e ∈ entries) : e.2.Distinct := by
  cases h with
  | scalar hscalar => cases hscalar
  | map _ hvalues => exact hvalues e he

theorem Value.Distinct.nodup_get? {entries fields : Entries} {k : Key}
    (h : (Value.map entries).Distinct)
    (hk : entries.get? k = some (.map fields)) : fields.keys.Nodup :=
  (h.of_mem ((lookup_eq_some_iff h.nodup).mp hk)).nodup

namespace Entries

theorem distinct_put {entries : Entries} {v : Value}
    (h : (Value.map entries).Distinct) (hv : v.Distinct) (key : Key) :
    (Value.map (Entries.put entries key v)).Distinct := by
  refine .map ?_ fun e he => ?_
  · rw [canonical_put]
    exact Keyed.nodup_put h.nodup_canonical _ v
  · rcases mem_put he with hvalue | he
    · rw [hvalue]
      exact hv
    · exact h.of_mem he

/-- Putting distinct values one after the other makes a distinct
mapping. -/
theorem distinct_foldl_put {pairs : List (Key × Value)}
    (h : ∀ e ∈ pairs, e.2.Distinct) {entries : Entries}
    (hentries : (Value.map entries).Distinct) :
    (Value.map (pairs.foldl (fun es (k, v) => Entries.put es k v)
      entries)).Distinct := by
  induction pairs generalizing entries with
  | nil => exact hentries
  | cons pair rest ih =>
      obtain ⟨hpair, hrest⟩ := List.forall_mem_cons.mp h
      exact ih hrest (distinct_put hentries hpair pair.1)

end Entries

end Outline
