/-
Lists of entries that are laid over each other.

Documents and the sections of a run are both kept as lists of entries
with keys, and both are laid over each other entry by entry, each new
entry seeing what is there already. What matters is only what stands
under a key afterwards (`lookup_overlay`): the upper entry, laid over the
lower one, and the lower one where there is no upper one. This holds if
the upper list has the key once; the lower list may be anything.

The keys of a document are compared as numbers, so a document is such a
list only if its keys are written as they are compared
(`Entries.canonical_merge`). A text is compared with itself alone, and
needs no other form.

A mapping whose values are no mappings is flat. There laying over is
simply the choice of the upper value (`Entries.Flat.get?_merge`), and the
outcome is flat again.
-/
import Mathlib.Data.List.Count
import Mathlib.Data.List.Nodup
import Mathlib.Order.Lattice
import Outline.Proofs.Value.Distinct
import Outline.Value.Merge

namespace Outline

-- =============================================================== overlays

namespace Keyed

variable {κ β : Type} [DecidableEq κ]

/-- What is kept of a list without its repetitions is kept once. -/
theorem nodup_eraseDups {α : Type} [BEq α] [LawfulBEq α] :
    ∀ l : List α, l.eraseDups.Nodup
  | [] => List.nodup_nil
  | a :: rest => by
      rw [List.eraseDups_cons, List.nodup_cons]
      refine ⟨fun h => ?_, nodup_eraseDups _⟩
      have hne := (List.mem_filter.mp (List.mem_eraseDups.mp h)).2
      simp at hne
termination_by l => l.length
decreasing_by exact Nat.lt_succ_of_le (List.length_filter_le ..)

/-- What is sorted and stripped of its repetitions is in strict order. -/
theorem pairwise_lt_mergeSort {α : Type} [LinearOrder α] [BEq α]
    [LawfulBEq α] {le : α → α → Bool}
    (hle : ∀ a b, le a b = true ↔ a ≤ b) (l : List α) :
    (l.eraseDups.mergeSort le).Pairwise (· < ·) := by
  have htrans : ∀ a b c, le a b = true → le b c = true → le a c = true := by
    intro a b c hab hbc
    rw [hle] at *
    exact le_trans hab hbc
  have htotal : ∀ a b, (le a b || le b a) = true := by
    intro a b
    rw [Bool.or_eq_true, hle, hle]
    exact le_total a b
  have hsorted := List.pairwise_mergeSort htrans htotal l.eraseDups
  have hnodup : (l.eraseDups.mergeSort le).Nodup :=
    (List.mergeSort_perm l.eraseDups le).nodup_iff.mpr (nodup_eraseDups l)
  refine (hsorted.and hnodup).imp fun h => ?_
  exact lt_of_le_of_ne ((hle _ _).mp h.1) h.2

/-- Lays entries over others, one by one; `f` lays an entry over what is
there under its key. -/
def overlay (f : Option β → β → β) (lower upper : List (κ × β)) :
    List (κ × β) :=
  upper.foldl (fun out (k, b) => put k (f (out.lookup k) b) out) lower

theorem overlay_cons (f : Option β → β → β) (lower : List (κ × β)) (k : κ)
    (b : β) (upper : List (κ × β)) :
    overlay f lower ((k, b) :: upper)
      = overlay f (put k (f (lower.lookup k) b) lower) upper := rfl

theorem lookup_eq_none_iff {key : κ} {l : List (κ × β)} :
    l.lookup key = none ↔ key ∉ keys l := by
  rw [List.lookup_eq_none_iff]
  simp only [keys, List.mem_map, not_exists, not_and, bne_iff_ne, ne_eq]
  exact ⟨fun h p hp hkey => h p hp hkey.symm,
    fun h p hp hkey => h p hp hkey.symm⟩

theorem lookup_put (key k : κ) (b : β) (l : List (κ × β)) :
    (put key b l).lookup k = if k = key then some b else l.lookup k := by
  induction l with
  | nil => rw [put, lookup_cons]
  | cons entry rest ih =>
      obtain ⟨other, c⟩ := entry
      rw [put]
      by_cases hother : other = key
      · rw [if_pos hother, lookup_cons, lookup_cons, hother]
        by_cases hk : k = key
        · rw [if_pos hk, if_pos hk]
        · rw [if_neg hk, if_neg hk, if_neg hk]
      · rw [if_neg hother, lookup_cons, lookup_cons, ih]
        by_cases hk : k = other
        · rw [if_pos hk, if_pos hk, if_neg (hk ▸ hother)]
        · rw [if_neg hk, if_neg hk]

/-- Keys stay distinct, whatever is laid over them. -/
theorem nodup_overlay (f : Option β → β → β) {lower : List (κ × β)}
    (h : (keys lower).Nodup) (upper : List (κ × β)) :
    (keys (overlay f lower upper)).Nodup := by
  induction upper generalizing lower with
  | nil => exact h
  | cons entry rest ih => exact ih (nodup_put h _ _)

/-- A key that is not in the upper list keeps its entry. -/
theorem lookup_overlay_of_not_mem (f : Option β → β → β)
    (lower : List (κ × β)) {upper : List (κ × β)} {k : κ}
    (h : k ∉ keys upper) :
    (overlay f lower upper).lookup k = lower.lookup k := by
  induction upper generalizing lower with
  | nil => rfl
  | cons entry rest ih =>
      obtain ⟨other, b⟩ := entry
      rw [keys, List.map_cons, List.mem_cons, not_or] at h
      rw [overlay_cons, ih _ h.2, lookup_put, if_neg h.1]

/-- A key that the upper list has once holds the upper entry, laid over
the lower one. -/
theorem lookup_overlay (f : Option β → β → β) (lower : List (κ × β))
    {upper : List (κ × β)} {k : κ} (h : (keys upper).count k ≤ 1) :
    (overlay f lower upper).lookup k
      = ((upper.lookup k).map (f (lower.lookup k))).or (lower.lookup k) := by
  induction upper generalizing lower with
  | nil => rfl
  | cons entry rest ih =>
      obtain ⟨other, b⟩ := entry
      rw [overlay_cons, lookup_cons]
      by_cases hk : k = other
      · -- the entry that counts; the others are of other keys
        subst hk
        rw [keys, List.map_cons, List.count_cons_self] at h
        have hrest : k ∉ keys rest :=
          List.count_eq_zero.mp (Nat.le_zero.mp (Nat.le_of_succ_le_succ h))
        rw [lookup_overlay_of_not_mem f _ hrest, lookup_put, if_pos rfl,
          if_pos rfl]
        rfl
      · rw [keys, List.map_cons, List.count_cons_of_ne (Ne.symm hk)] at h
        rw [ih _ h, lookup_put, if_neg hk, if_neg hk]

theorem mem_keys_overlay {f : Option β → β → β} {lower upper : List (κ × β)}
    {k : κ} : k ∈ keys (overlay f lower upper)
      ↔ k ∈ keys lower ∨ k ∈ keys upper := by
  induction upper generalizing lower with
  | nil => simp [overlay]
  | cons entry rest ih =>
      obtain ⟨other, b⟩ := entry
      have hput : k ∈ keys (put other (f (lower.lookup other) b) lower)
          ↔ k ∈ keys lower ∨ k = other := by
        rw [keys_put]
        split
        next hmem => exact (or_iff_left_of_imp fun h => h ▸ hmem).symm
        next => rw [List.mem_append, List.mem_singleton]
      have hcons : k ∈ keys ((other, b) :: rest)
          ↔ k = other ∨ k ∈ keys rest := List.mem_cons
      rw [overlay_cons, ih, hput, hcons, or_assoc]

section Translation

variable {γ : Type} (g : β → γ)

/-- The same keys with translated entries. -/
abbrev translate (l : List (κ × β)) : List (κ × γ) :=
  l.map fun e => (e.1, g e.2)

theorem lookup_translate (k : κ) (l : List (κ × β)) :
    (translate g l).lookup k = (l.lookup k).map g := by
  induction l with
  | nil => rfl
  | cons entry rest ih =>
      rw [translate, List.map_cons, ← translate, lookup_cons, lookup_cons, ih]
      by_cases hk : k = entry.1
      · rw [if_pos hk, if_pos hk]
        rfl
      · rw [if_neg hk, if_neg hk]

end Translation

theorem count_le_one {l : List (κ × β)} (h : (keys l).Nodup) (k : κ) :
    (keys l).count k ≤ 1 :=
  List.nodup_iff_count_le_one.mp h k

end Keyed

open Keyed

-- =============================================================== mappings

namespace Key

theorem canonical_text (s : String) : (text s).canonical = .text s := rfl

theorem canonical_eq_text {k : Key} {s : String} :
    k.canonical = .text s ↔ k = .text s := by
  cases k with
  | float x =>
      rw [canonical]
      cases x.toInt? <;> simp
  | _ => simp [canonical]

/-- A key that is no text is equal to none. -/
theorem text?_canonical (k : Key) : k.canonical.text? = k.text? := by
  cases k with
  | float x =>
      rw [canonical]
      cases x.toInt? <;> rfl
  | _ => rfl

end Key

namespace Entries

theorem get?_put (key k : Key) (value : Value) (entries : Entries) :
    Entries.get? (Keyed.put key value entries) k
      = if k = key then some value else entries.get? k :=
  lookup_put key k value entries

theorem nodup_ofList (pairs : List (Key × Value)) :
    (ofList pairs).keys.Nodup := by
  have hnil : (Keyed.keys ([] : Entries)).Nodup := List.nodup_nil
  exact nodup_overlay (fun _ v => v) hnil pairs

/-- A list of entries with distinct keys holds what the list says. -/
theorem get?_ofList {pairs : List (Key × Value)} (h : (Keyed.keys pairs).Nodup)
    (k : Key) : (ofList pairs).get? k = pairs.lookup k := by
  have hover := lookup_overlay (fun _ v => v) [] (count_le_one h k)
  refine hover.trans ?_
  cases pairs.lookup k <;> rfl

-- ------------------------------------------------- keys equal as numbers

theorem value?_eq_lookup (entries : Entries) (k : Key) :
    entries.value? k = (canonical entries).lookup k.canonical := by
  induction entries with
  | nil => rfl
  | cons entry rest ih =>
      obtain ⟨other, v⟩ := entry
      rw [canonical, List.map_cons, lookup_cons, ← canonical, ← ih]
      by_cases h : other.canonical = k.canonical
      · simp [value?, h]
      · simp [value?, h, Ne.symm h]

/-- A text is equal to no other key. -/
theorem value?_text (entries : Entries) (s : String) :
    entries.value? (.text s) = entries.get? (.text s) := by
  induction entries with
  | nil => rfl
  | cons entry rest ih =>
      obtain ⟨other, v⟩ := entry
      have hkey : Key.text s = other.canonical ↔ Key.text s = other := by
        rw [eq_comm, Key.canonical_eq_text, eq_comm]
      rw [value?_eq_lookup, canonical, List.map_cons, lookup_cons,
        ← canonical, ← value?_eq_lookup, ih, get?, get?, lookup_cons]
      simp only [Key.canonical_text, hkey]

theorem keys_put (entries : Entries) (key : Key) (v : Value) :
    (put entries key v).keys
      = if key.canonical ∈ Keyed.keys (canonical entries) then entries.keys
        else entries.keys ++ [key] := by
  induction entries with
  | nil => rfl
  | cons entry rest ih =>
      obtain ⟨k, w⟩ := entry
      rw [put_cons]
      by_cases h : k.canonical = key.canonical
      · simp [keys, h]
      · have hrest : key.canonical ∈ Keyed.keys (canonical ((k, w) :: rest))
            ↔ key.canonical ∈ Keyed.keys (canonical rest) := by
          simp [Ne.symm h]
        rw [if_neg h, keys, List.map_cons, ← keys, ih]
        simp only [hrest]
        split <;> rfl

/-- Up to equality of numbers a merge is an overlay. -/
theorem canonical_merge (lower upper : Entries) :
    canonical (merge lower upper)
      = overlay mergeAt (canonical lower) (canonical upper) := by
  induction upper generalizing lower with
  | nil => rw [merge]; rfl
  | cons entry rest ih =>
      obtain ⟨key, value⟩ := entry
      rw [merge, ih, canonical_put, value?_eq_lookup]
      rfl

/-- Keys that are no texts stay, in one spelling or another. -/
theorem exists_foreign_merge {lower upper : Entries} :
    (∃ k ∈ (merge lower upper).keys, k.text? = none)
      ↔ ∃ k, (k ∈ lower.keys ∨ k ∈ upper.keys) ∧ k.text? = none := by
  have hcanonical : ∀ entries : Entries,
      (∃ k ∈ entries.keys, k.text? = none)
        ↔ ∃ k ∈ Keyed.keys (canonical entries), k.text? = none := by
    intro entries
    simp [keys, Key.text?_canonical]
  simp only [or_and_right, exists_or]
  rw [hcanonical, hcanonical, hcanonical, canonical_merge]
  simp only [mem_keys_overlay, or_and_right, exists_or]

/-- A key that the upper mapping has once holds the upper value, laid over
the lower one. -/
theorem value?_merge (lower : Entries) {upper : Entries} {k : Key}
    (h : (Keyed.keys (canonical upper)).count k.canonical ≤ 1) :
    (merge lower upper).value? k
      = ((upper.value? k).map (mergeAt (lower.value? k))).or
          (lower.value? k) := by
  simp only [value?_eq_lookup, canonical_merge]
  exact lookup_overlay mergeAt (canonical lower) h

theorem count_canonical_text (entries : Entries) (s : String) :
    (Keyed.keys (canonical entries)).count (.text s)
      = entries.keys.count (.text s) := by
  induction entries with
  | nil => rfl
  | cons entry rest ih =>
      have hkey : (entry.1.canonical == Key.text s) = (entry.1 == Key.text s) :=
        Bool.eq_iff_iff.mpr (by simp [Key.canonical_eq_text])
      rw [canonical, List.map_cons, Keyed.keys, List.map_cons, keys,
        List.map_cons, List.count_cons, List.count_cons, hkey]
      exact congrArg (· + _) ih

theorem get?_merge (lower : Entries) {upper : Entries} {s : String}
    (h : upper.keys.count (.text s) ≤ 1) :
    (merge lower upper).get? (.text s)
      = ((upper.get? (.text s)).map (mergeAt (lower.get? (.text s)))).or
          (lower.get? (.text s)) := by
  simp only [← value?_text]
  refine value?_merge lower ?_
  rw [Key.canonical_text, count_canonical_text]
  exact h

theorem nodup_put {entries : Entries} (h : entries.keys.Nodup) (key : Key)
    (v : Value) : (put entries key v).keys.Nodup := by
  rw [keys_put]
  split
  next => exact h
  next hnew =>
    rw [← List.concat_eq_append]
    refine h.concat fun hmem => hnew ?_
    obtain ⟨e, he, rfl⟩ := List.mem_map.mp hmem
    exact List.mem_map_of_mem (List.mem_map_of_mem he)

-- ---------------------------------------------------------- flat mappings

/-- Only a mapping over a mapping gives something new. -/
theorem mergeAt_of_not_isMap (below : Option Value) {v : Value}
    (h : v.isMap = false) : mergeAt below v = v := by
  cases v with
  | map entries => cases h
  | _ => rw [mergeAt]; exact nofun

/-- A mapping with distinct keys and no mapping in it. -/
structure Flat (entries : Entries) : Prop where
  nodup : entries.keys.Nodup
  plain : ∀ e ∈ entries, e.2.isMap = false

namespace Flat

variable {lower upper : Entries}

/-- In a flat mapping over another the upper values count, key by
key. -/
theorem get?_merge (lower : Entries) (h : upper.Flat) (s : String) :
    (merge lower upper).get? (.text s)
      = (upper.get? (.text s)).or (lower.get? (.text s)) := by
  rw [Entries.get?_merge lower (count_le_one h.nodup (.text s))]
  cases hk : upper.get? (.text s) with
  | none => rfl
  | some v =>
      have hv := h.plain _ ((lookup_eq_some_iff h.nodup).mp hk)
      rw [Option.map_some, mergeAt_of_not_isMap _ hv]

theorem merge (hl : lower.Flat) (hu : upper.Flat) :
    (Entries.merge lower upper).Flat := by
  have hplain := hu.plain
  clear hu
  induction upper generalizing lower with
  | nil =>
      rw [Entries.merge]
      exact hl
  | cons entry rest ih =>
      obtain ⟨key, v⟩ := entry
      obtain ⟨hv, hrest⟩ := List.forall_mem_cons.mp hplain
      rw [Entries.merge, mergeAt_of_not_isMap _ hv]
      refine ih ⟨nodup_put hl.nodup key v, fun e he => ?_⟩ hrest
      rcases mem_put he with heq | he
      · rw [heq]
        exact hv
      · exact hl.plain e he

end Flat

end Entries

theorem Value.at?_map_singleton (entries : Entries) (s : String) :
    (Value.map entries).at? [.text s] = entries.get? (.text s) := by
  rw [Value.at?, Entries.value?_text]
  cases entries.get? (.text s) <;> rfl

end Outline
