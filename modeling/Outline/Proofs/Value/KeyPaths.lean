/-
What a mapping holds at a path of keys after another one was laid over it.

Laying over goes down two mappings at once, and only as long as both are
mappings. What is found at a path afterwards is decided by the upper
mapping: by the value it has there, laid over the lower one; if it has
none, by whether it blocks the path, that is, has something other than a
mapping on the way (`Value.blocks_iff`); and only then by the lower one.
`Value.at?_mergeAt` says so for all paths at once, by induction on the
path. Each key of it is one step of `Entries.value?_merge`.

That nothing changes the second time is another induction, on the upper
value (`Entries.mergeAt_mergeAt`): what is there after the first time is,
under every key, the upper value laid over something.
-/
import Outline.Proofs.Value.Overlay

namespace Outline

open Keyed

-- ============================================================= single keys

namespace Entries

variable {lower upper entries : Entries} {key k : Key} {v w : Value}

theorem value?_put (entries : Entries) (key k : Key) (v : Value) :
    (put entries key v).value? k
      = if k.canonical = key.canonical then some v else entries.value? k := by
  simp only [value?_eq_lookup, canonical_put, lookup_put]

theorem value?_eq_none_iff :
    entries.value? k = none ↔ k.canonical ∉ entries.keys.map Key.canonical := by
  rw [value?_eq_lookup, lookup_eq_none_iff, keys_canonical]

/-- An entry of a mapping is what is found under its key. -/
theorem value?_of_mem (h : (Keyed.keys (canonical entries)).Nodup)
    {e : Key × Value} (he : e ∈ entries) : entries.value? e.1 = some e.2 := by
  rw [value?_eq_lookup, lookup_eq_some_iff h]
  exact List.mem_map_of_mem he

/-- What is found under a key is the value of an entry. -/
theorem exists_mem_of_value? (h : entries.value? k = some v) :
    ∃ e ∈ entries, e.2 = v := by
  obtain ⟨e, he, rfl⟩ := Option.map_eq_some_iff.mp h
  exact ⟨e, List.mem_of_find?_eq_some he, rfl⟩

/-- Putting what is there already changes nothing. -/
theorem put_eq_self (h : entries.value? key = some v) :
    put entries key v = entries := by
  induction entries with
  | nil => cases h
  | cons entry rest ih =>
      obtain ⟨other, w⟩ := entry
      rw [put_cons]
      by_cases hother : other.canonical = key.canonical
      · have hw : w = v := by simpa [value?, hother] using h
        rw [if_pos hother, hw]
      · have hrest : value? rest key = some v := by
          simpa [value?, hother] using h
        rw [if_neg hother, ih hrest]

/-- A mapping over what is no mapping is left as it is. -/
theorem mergeAt_map_of_not_isMap {below : Option Value}
    (h : ∀ ls, below ≠ some (.map ls)) (us : Entries) :
    mergeAt below (.map us) = .map us := by
  rw [mergeAt]
  exact h

theorem mergeAt_none (v : Value) : mergeAt none v = v := by
  cases v with
  | map us =>
      refine mergeAt_map_of_not_isMap (fun ls h => ?_) us
      cases h
  | _ => exact mergeAt_of_not_isMap none rfl

-- ==================================================================== keys

/-- The lower keys stay as they are, and the keys that are new follow. -/
theorem keys_merge (lower : Entries) {upper : Entries}
    (h : (upper.keys.map Key.canonical).Nodup) :
    (merge lower upper).keys
      = lower.keys ++ upper.keys.filter fun k => (lower.value? k).isNone := by
  induction upper generalizing lower with
  | nil =>
      rw [merge]
      exact (List.append_nil _).symm
  | cons entry rest ih =>
      obtain ⟨key, v⟩ := entry
      obtain ⟨hnew, hrest⟩ := List.nodup_cons.mp h
      -- the other keys find what they found before
      have hothers : ∀ k ∈ keys rest,
          (put lower key (mergeAt (lower.value? key) v)).value? k
            = lower.value? k := by
        intro k hk
        rw [value?_put, if_neg]
        intro heq
        exact hnew (heq ▸ List.mem_map_of_mem hk)
      rw [merge, ih _ hrest, List.filter_congr fun k hk => by rw [hothers k hk],
        keys_put, keys_canonical]
      show _ = lower.keys ++ (key :: keys rest).filter _
      cases hkey : lower.value? key with
      | none =>
          rw [if_neg (value?_eq_none_iff.mp hkey), List.append_assoc,
            List.filter_cons_of_pos (by simp [hkey])]
          rfl
      | some w =>
          have hmem : key.canonical ∈ lower.keys.map Key.canonical := by
            by_contra hmem
            simp [value?_eq_none_iff.mpr hmem] at hkey
          rw [if_pos hmem, List.filter_cons_of_neg (by simp [hkey])]

theorem put_of_new (h : entries.value? key = none) (v : Value) :
    put entries key v = entries ++ [(key, v)] := by
  induction entries with
  | nil => rfl
  | cons entry rest ih =>
      obtain ⟨other, w⟩ := entry
      have hother : other.canonical ≠ key.canonical := fun heq => by
        simp [value?, heq] at h
      have hrest : value? rest key = none := by
        simpa [value?, hother] using h
      rw [put_cons, if_neg hother, ih hrest, List.cons_append]

/-- Over a mapping that has none of its keys a mapping comes at the
end. -/
theorem merge_eq_append
    (h : ((lower ++ upper).keys.map Key.canonical).Nodup) :
    merge lower upper = lower ++ upper := by
  induction upper generalizing lower with
  | nil => rw [merge, List.append_nil]
  | cons entry rest ih =>
      obtain ⟨key, v⟩ := entry
      have hnone : lower.value? key = none := by
        rw [value?_eq_none_iff]
        intro hmem
        rw [keys, List.map_append, List.map_append, List.nodup_append] at h
        exact h.2.2 _ hmem _ List.mem_cons_self rfl
      rw [merge, hnone, mergeAt_none, put_of_new hnone, ih]
      · rw [List.append_assoc, List.singleton_append]
      · rwa [List.append_assoc, List.singleton_append]

-- ============================================================= the same twice

/-- Laying over a mapping what is there already changes nothing. -/
theorem merge_eq_self
    (h : ∀ e ∈ upper, ∃ w, lower.value? e.1 = some w
      ∧ mergeAt (some w) e.2 = w) : merge lower upper = lower := by
  induction upper with
  | nil => rw [merge]
  | cons entry rest ih =>
      obtain ⟨⟨w, hvalue, hlaid⟩, hrest⟩ := List.forall_mem_cons.mp h
      rw [merge, hvalue, hlaid, put_eq_self hvalue]
      exact ih hrest

/-- Laying a value over something twice is laying it over once. -/
theorem mergeAt_mergeAt (hv : v.Distinct) (below : Option Value) :
    mergeAt (some (mergeAt below v)) v = mergeAt below v := by
  induction hv generalizing below with
  | @scalar v hscalar =>
      have hplain : v.isMap = false := by
        cases v with
        | map entries => cases hscalar
        | _ => rfl
      rw [mergeAt_of_not_isMap _ hplain, mergeAt_of_not_isMap _ hplain]
  | list => rw [mergeAt_of_not_isMap _ rfl, mergeAt_of_not_isMap _ rfl]
  | group => rw [mergeAt_of_not_isMap _ rfl, mergeAt_of_not_isMap _ rfl]
  | @map us hnodup _ ih =>
      have hown : ∀ e ∈ us, us.value? e.1 = some e.2 := fun e he =>
        value?_of_mem hnodup he
      by_cases hbelow : ∃ ls, below = some (.map ls)
      · obtain ⟨ls, rfl⟩ := hbelow
        have hlaid : ∀ e ∈ us, (merge ls us).value? e.1
            = some (mergeAt (value? ls e.1) e.2) := by
          intro e he
          rw [value?_merge ls (List.nodup_iff_count_le_one.mp hnodup _),
            hown e he]
          rfl
        rw [mergeAt, mergeAt,
          merge_eq_self fun e he => ⟨_, hlaid e he, ih e he _⟩]
      · have hbelow : ∀ ls, below ≠ some (.map ls) := fun ls hls =>
          hbelow ⟨ls, hls⟩
        have hself : ∀ e ∈ us, mergeAt (some e.2) e.2 = e.2 := by
          intro e he
          have hnone := ih e he none
          rwa [mergeAt_none] at hnone
        rw [mergeAt_map_of_not_isMap hbelow, mergeAt,
          merge_eq_self fun e he => ⟨_, hown e he, hself e he⟩]

end Entries

-- ==================================================================== paths

namespace Value

/-- A path on which a value that is no mapping comes before the end. -/
def LeavesMappings (v : Value) (p : KeyPath) : Prop :=
  ∃ q r, p = q ++ r ∧ r ≠ [] ∧ ∃ w, v.at? q = some w ∧ w.isMap = false

/-- Whether a path leaves the mappings of a value, found by going along
it. -/
def blocks (v : Value) : KeyPath → Bool
  | [] => false
  | key :: rest =>
    match v with
    | .map entries => (Entries.value? entries key).any fun w => w.blocks rest
    | _ => true

theorem blocks_iff {v : Value} {p : KeyPath} :
    v.blocks p = true ↔ v.LeavesMappings p := by
  induction p generalizing v with
  | nil =>
      constructor
      · intro h
        cases h
      · rintro ⟨q, r, hp, hr, -⟩
        exact absurd (List.append_eq_nil_iff.mp hp.symm).2 hr
  | cons key rest ih =>
      cases v with
      | map entries =>
          rw [blocks, Option.any_eq_true]
          constructor
          · rintro ⟨w, hw, hblocks⟩
            obtain ⟨q, r, rfl, hr, x, hx, hplain⟩ := ih.mp hblocks
            refine ⟨key :: q, r, rfl, hr, x, ?_, hplain⟩
            rw [at?, hw]
            exact hx
          · rintro ⟨q, r, hp, hr, x, hx, hplain⟩
            cases q with
            | nil =>
                cases hx
                cases hplain
            | cons k q =>
                cases hp
                rw [at?] at hx
                obtain ⟨w, hw, hx⟩ := Option.bind_eq_some_iff.mp hx
                exact ⟨w, hw, ih.mpr ⟨q, r, rfl, hr, x, hx, hplain⟩⟩
      | _ =>
          have hne : key :: rest ≠ [] := List.cons_ne_nil key rest
          exact ⟨fun _ => ⟨[], _, rfl, hne, _, rfl, rfl⟩, fun _ => rfl⟩

/-- Nothing stands at the end of such a path. -/
theorem at?_of_blocks {v : Value} {p : KeyPath} (h : v.blocks p = true) :
    v.at? p = none := by
  induction p generalizing v with
  | nil => cases h
  | cons key rest ih =>
      cases v with
      | map entries =>
          obtain ⟨w, hw, hblocks⟩ := (Option.any_eq_true _ _).mp h
          rw [at?, hw]
          exact ih hblocks
      | _ => rfl

theorem Distinct.of_at? {v w : Value} {p : KeyPath} (hv : v.Distinct)
    (h : v.at? p = some w) : w.Distinct := by
  induction p generalizing v with
  | nil =>
      cases h
      exact hv
  | cons key rest ih =>
      cases v with
      | map entries =>
          rw [at?] at h
          obtain ⟨x, hx, hw⟩ := Option.bind_eq_some_iff.mp h
          obtain ⟨e, he, rfl⟩ := Entries.exists_mem_of_value? hx
          exact ih (hv.of_mem he) hw
      | _ => cases h

/-- What stands at a path after a value was laid over another: the value
there, laid over the lower one, and otherwise the lower one, unless the
path is blocked. -/
theorem at?_mergeAt {v : Value} (hv : v.Distinct) (below : Option Value)
    (p : KeyPath) :
    (Entries.mergeAt below v).at? p
      = ((v.at? p).map (Entries.mergeAt (below.bind (·.at? p)))).or
          (if v.blocks p then none else below.bind (·.at? p)) := by
  induction p generalizing v below with
  | nil => cases below <;> rfl
  | cons key rest ih =>
      cases v with
      | map us =>
          by_cases hbelow : ∃ ls, below = some (.map ls)
          · obtain ⟨ls, rfl⟩ := hbelow
            have hkey := Entries.value?_merge ls
              (List.nodup_iff_count_le_one.mp hv.nodup_canonical key.canonical)
            rw [Entries.mergeAt, at?, hkey, at?, blocks]
            cases hu : Entries.value? us key with
            | none => rfl
            | some w =>
                obtain ⟨e, he, rfl⟩ := Entries.exists_mem_of_value? hu
                exact ih (hv.of_mem he) _
          · have hbelow : ∀ ls, below ≠ some (.map ls) := fun ls hls =>
              hbelow ⟨ls, hls⟩
            have hnone : (below.bind fun b => b.at? (key :: rest)) = none := by
              cases below with
              | none => rfl
              | some b =>
                  cases b with
                  | map ls => exact absurd rfl (hbelow ls)
                  | _ => rfl
            rw [Entries.mergeAt_map_of_not_isMap hbelow, hnone, ite_self,
              Option.or_none]
            cases (map us).at? (key :: rest) with
            | none => rfl
            | some w => rw [Option.map_some, Entries.mergeAt_none]
      | _ => rw [Entries.mergeAt_of_not_isMap _ rfl]; rfl

end Value

namespace Entries

/-- One mapping over another, at every path. A value of the upper one that
is no mapping stands there, and nothing stands beyond it. Where the upper
one has nothing, and nothing in the way, what the lower one has stands
there. Two mappings are merged, with the lower keys first and the new ones
after them, and an upper mapping that meets none is left as it is. So the
empty mapping, a mapping over itself, and the same mapping a second time
change nothing. -/
theorem merge_decided_by_upper (lower upper : Entries)
    (hl : (Value.map lower).Distinct) (hu : (Value.map upper).Distinct) :
    (∀ p : KeyPath,
      (∀ v, (Value.map upper).at? p = some v → v.isMap = false →
        (Value.map (merge lower upper)).at? p = some v)
      ∧ ((Value.map upper).LeavesMappings p →
        (Value.map (merge lower upper)).at? p = none)
      ∧ ((Value.map upper).at? p = none →
        ¬(Value.map upper).LeavesMappings p →
        (Value.map (merge lower upper)).at? p = (Value.map lower).at? p)
      ∧ ∀ us : Entries, (Value.map upper).at? p = some (.map us) →
        (∀ ls : Entries, (Value.map lower).at? p = some (.map ls) →
          (Value.map (merge lower upper)).at? p = some (.map (merge ls us))
          ∧ (merge ls us).keys
            = ls.keys ++ us.keys.filter fun k => (ls.value? k).isNone)
        ∧ ((∀ ls, (Value.map lower).at? p ≠ some (.map ls)) →
          (Value.map (merge lower upper)).at? p = some (.map us)))
    ∧ merge lower [] = lower ∧ merge [] upper = upper
    ∧ merge lower lower = lower
    ∧ merge (merge lower upper) upper = merge lower upper := by
  have hmap : ∀ ls us : Entries,
      mergeAt (some (.map ls)) (.map us) = .map (merge ls us) := by
    intro ls us
    rw [mergeAt]
  have hpath := Value.at?_mergeAt hu (some (.map lower))
  simp only [hmap, Option.bind_some] at hpath
  refine ⟨fun p => ⟨fun v hv hplain => ?_, fun hleaves => ?_,
    fun hnone hstays => ?_, fun us hus => ⟨fun ls hls => ⟨?_, ?_⟩,
      fun hnomap => ?_⟩⟩, ?_, ?_, ?_, ?_⟩
  · rw [hpath, hv, Option.map_some, mergeAt_of_not_isMap _ hplain]
    rfl
  · have hblocks := Value.blocks_iff.mpr hleaves
    rw [hpath, Value.at?_of_blocks hblocks, if_pos hblocks]
    rfl
  · rw [hpath, hnone, if_neg (mt Value.blocks_iff.mp hstays)]
    rfl
  · rw [hpath, hus, hls, Option.map_some, hmap]
    rfl
  · apply keys_merge
    rw [← keys_canonical]
    exact (hu.of_at? hus).nodup_canonical
  · rw [hpath, hus, Option.map_some, mergeAt_map_of_not_isMap hnomap]
    rfl
  · rw [merge]
  · apply merge_eq_append
    rw [List.nil_append, ← keys_canonical]
    exact hu.nodup_canonical
  · have hself := mergeAt_mergeAt hl none
    rw [mergeAt_none, hmap] at hself
    exact (Value.map.inj hself)
  · have htwice := mergeAt_mergeAt hu (some (.map lower))
    rw [hmap, hmap] at htwice
    exact (Value.map.inj htwice)

/-- A mapping below, with a number for a key. -/
def numberedEntries : Entries :=
  [(.text "a", .map [(.text "x", .int 1), (.text "y", .list [.null])]),
    (.int 1, .null), (.text "b", .map [(.text "z", .int 2)])]

/-- A mapping above, with the same key as a truth value. -/
def markedEntries : Entries :=
  [(.bool true, .map [(.text "w", .null)]), (.text "b", .text "off"),
    (.text "a", .map [(.text "y", .map [(.text "q", .int 3)])])]

/-- A sibling survives, a list and a mapping give way with all below them,
and the key that is a number keeps its place and its spelling. -/
theorem merge_decided_by_upper_marked :
    (Value.map numberedEntries).Distinct ∧ (Value.map markedEntries).Distinct
    ∧ (let merged := merge numberedEntries markedEntries
      merged.keys = [.text "a", .int 1, .text "b"]
      ∧ (Value.map merged).at? [.text "a", .text "x"] = some (.int 1)
      ∧ (Value.map merged).at? [.text "a", .text "y", .text "q"]
        = some (.int 3)
      ∧ (Value.map merged).at? [.float (.ofInt 1)]
        = some (.map [(.text "w", .null)])
      ∧ (Value.map merged).at? [.text "b", .text "z"] = none
      ∧ merge merged markedEntries = merged) := by
  have hl : (Value.map numberedEntries).Distinct := by
    refine .map (by decide) ?_
    simp only [numberedEntries, List.forall_mem_cons]
    refine ⟨.map (by decide) ?_, .scalar rfl, .map (by decide) ?_, nofun⟩
    · simp only [List.forall_mem_cons]
      exact ⟨.scalar rfl, .list (List.forall_mem_singleton.mpr (.scalar rfl)),
        nofun⟩
    · simp only [List.forall_mem_cons]
      exact ⟨.scalar rfl, nofun⟩
  have hu : (Value.map markedEntries).Distinct := by
    refine .map (by decide) ?_
    simp only [markedEntries, List.forall_mem_cons]
    refine ⟨.map (by decide) ?_, .scalar rfl, .map (by decide) ?_, nofun⟩
    · simp only [List.forall_mem_cons]
      exact ⟨.scalar rfl, nofun⟩
    · simp only [List.forall_mem_cons]
      refine ⟨.map (by decide) ?_, nofun⟩
      simp only [List.forall_mem_cons]
      exact ⟨.scalar rfl, nofun⟩
  obtain ⟨hpath, -, -, -, htwice⟩ :=
    merge_decided_by_upper numberedEntries markedEntries hl hu
  obtain ⟨-, -, -, hroot⟩ := hpath []
  obtain ⟨-, -, hsibling, -⟩ := hpath [.text "a", .text "x"]
  refine ⟨hl, hu, ((hroot _ rfl).1 _ rfl).2, ?_, ?_, ?_, ?_, htwice⟩
  · refine (hsibling rfl ?_).trans rfl
    rw [← Value.blocks_iff]
    decide
  · exact (hpath _).1 _ rfl rfl
  · exact ((hpath _).2.2.2 _ rfl).2 nofun
  · exact (hpath _).2.1 ⟨[.text "b"], [.text "z"], rfl, nofun, _, rfl, rfl⟩

end Entries

end Outline
