/-
Layers of sections that are laid over each other.

The settings of a run are made of layers: documents, the environment, and
overrides. They are laid over each other in two ways, documents as
mappings and the rest as layers of sections, but for a section the first
is the second in disguise (`Layer.lookup_ofEntries_merge`). So there is one
law for all of them: where a section is flat in both layers, each key has
the upper value or else the lower one (`Layer.FlatAt.merge`).

A section that is flat in a layer is checked as a mapping, and the others
do not matter to it (`Layer.exists_of_check`).
-/
import Outline.Proofs.Settings.Dump
import Outline.Proofs.Settings.Environment
import Outline.Settings.Load

namespace Outline

open Keyed Checked

/-- What a computation gives and what holds of it can be decided together. -/
theorem exists_of_toOption_any {ε α : Type} {x : Except ε α} {p : α → Prop}
    [DecidablePred p] (h : x.toOption.any (p ·) = true) :
    ∃ a, x = .ok a ∧ p a := by
  cases x with
  | error e => cases h
  | ok a => exact ⟨a, rfl, of_decide_eq_true h⟩

-- ================================================================= layers

namespace Override

/-- An override that is a flat mapping. -/
def IsFlat : Override → Prop
  | .value (.map entries) => Entries.Flat entries
  | _ => False

theorem exists_of_isFlat {o : Override} (h : o.IsFlat) :
    ∃ entries : Entries, o = .value (.map entries) ∧ entries.Flat := by
  unfold IsFlat at h
  split at h
  next entries => exact ⟨entries, rfl, h⟩
  next => exact h.elim

/-- What an override gives for a key. -/
def at? (o : Override) (key : String) : Option Value :=
  match o with
  | .value v => v.at? [.text key]
  | .ready _ => none

end Override

namespace Layer

variable {lower upper layer : Layer} {part key : String}

theorem merge_eq_overlay (lower upper : Layer) :
    lower.merge upper = overlay Override.laidOver lower upper := rfl

/-- A layer in which a section is flat, or not there at all. -/
def FlatAt (layer : Layer) (part : String) : Prop :=
  ∀ o, layer.lookup (.text part) = some o → o.IsFlat

/-- What a layer gives for a key of a section. -/
def at? (layer : Layer) (part key : String) : Option Value :=
  (layer.lookup (.text part)).bind fun o => o.at? key

/-- A flat section over another one: each key has the upper value, or
else the lower one. -/
theorem FlatAt.merge (hl : lower.FlatAt part) (hu : upper.FlatAt part)
    (honce : (keys upper).count (.text part) ≤ 1) :
    (lower.merge upper).FlatAt part
      ∧ ∀ key, (lower.merge upper).at? part key
        = (upper.at? part key).or (lower.at? part key) := by
  have hover := lookup_overlay Override.laidOver lower honce
  rw [← merge_eq_overlay] at hover
  unfold FlatAt at hl hu ⊢
  simp only [at?, hover]
  cases hupper : upper.lookup (.text part) with
  | none => exact ⟨hl, fun _ => rfl⟩
  | some o =>
      obtain ⟨us, rfl, hus⟩ := Override.exists_of_isFlat (hu o hupper)
      cases hlower : lower.lookup (.text part) with
      | none =>
          refine ⟨fun o ho => ?_, fun key => ?_⟩
          · cases ho
            exact hus
          · exact Option.or_none.symm
      | some below =>
          obtain ⟨ls, rfl, hls⟩ := Override.exists_of_isFlat (hl below hlower)
          refine ⟨fun o ho => ?_, fun key => ?_⟩
          · cases ho
            exact hls.merge hus
          · have hkey := hus.get?_merge ls key
            simp only [← Value.at?_map_singleton] at hkey
            exact hkey

-- ============================================================ the sources

theorem lookup_ofEntries (entries : Entries) (k : Key) :
    (ofEntries entries).lookup k = (entries.get? k).map .value :=
  lookup_translate Override.value k entries

theorem keys_ofEntries (entries : Entries) :
    keys (ofEntries entries) = entries.keys := by
  rw [ofEntries, keys, List.map_map]
  rfl

theorem at?_ofEntries (entries : Entries) (part key : String) :
    (ofEntries entries).at? part key
      = (Value.map entries).at? [.text part, .text key] := by
  rw [at?, lookup_ofEntries, Value.at?, Entries.value?_text]
  cases entries.get? (.text part) <;> rfl

/-- For a section documents are laid over each other like layers. -/
theorem lookup_ofEntries_merge {lower upper : Entries}
    (honce : upper.keys.count (.text part) ≤ 1) :
    (ofEntries (Entries.merge lower upper)).lookup (.text part)
      = ((ofEntries lower).merge (ofEntries upper)).lookup (.text part) := by
  have hlaid : ∀ below above, Override.laidOver (below.map .value) (.value above)
      = .value (Entries.mergeAt below above) := by
    intro below above
    cases above with
    | map upper =>
        cases below with
        | none => rfl
        | some v => cases v <;> rfl
    | _ => cases below <;> rfl
  rw [merge_eq_overlay, lookup_overlay _ _ (by rwa [keys_ofEntries]),
    lookup_ofEntries, lookup_ofEntries, lookup_ofEntries,
    Entries.get?_merge lower honce]
  cases upper.get? (.text part) with
  | none => rfl
  | some above => exact congrArg some (hlaid _ above).symm

/-- A flat section of a document over that of another one. -/
theorem FlatAt.merge_ofEntries {lower upper : Entries}
    (hl : (ofEntries lower).FlatAt part) (hu : (ofEntries upper).FlatAt part)
    (honce : upper.keys.count (.text part) ≤ 1) :
    (ofEntries (Entries.merge lower upper)).FlatAt part
      ∧ ∀ key, (ofEntries (Entries.merge lower upper)).at? part key
        = ((ofEntries upper).at? part key).or
            ((ofEntries lower).at? part key) := by
  have hlayers := hl.merge hu (by rwa [keys_ofEntries])
  unfold FlatAt at hlayers ⊢
  simpa only [at?, lookup_ofEntries_merge honce] using hlayers

/-- The overrides of a caller are the known sections and then others. -/
theorem exists_ofOverrides (given : List (String × Override)) :
    ∃ others : Layer, ofOverrides given
        = (["logging", "extraction"].filterMap fun name =>
            (given.lookup name).map fun o => (Key.text name, o)) ++ others
      ∧ ∀ part, IsSection part → Key.text part ∉ keys others := by
  refine ⟨_, rfl, fun part hpart hmem => ?_⟩
  obtain ⟨_, hentry, hkey⟩ := List.mem_map.mp hmem
  obtain ⟨⟨name, o⟩, hgiven, rfl⟩ := List.mem_map.mp hentry
  cases hkey
  have hunknown := (List.mem_filter.mp hgiven).2
  rcases hpart with rfl | rfl <;> cases hunknown

/-- Each known section is there once, as the caller gives it. -/
theorem lookup_ofOverrides (given : List (String × Override))
    (hpart : IsSection part) :
    (ofOverrides given).lookup (.text part) = given.lookup part
      ∧ (keys (ofOverrides given)).count (.text part) ≤ 1 := by
  obtain ⟨others, heq, hothers⟩ := exists_ofOverrides given
  have hnone := hothers part hpart
  rw [heq, List.lookup_append, lookup_eq_none_iff.mpr hnone, Option.or_none,
    keys, List.map_append, List.count_append, List.count_eq_zero.mpr hnone,
    Nat.add_zero]
  rcases hpart with rfl | rfl <;>
    cases hlogging : given.lookup "logging" <;>
    cases hextraction : given.lookup "extraction" <;>
    simp [hlogging, hextraction, lookup_cons]

end Layer

-- ================================================================= checks

variable {homes : Homes} {layer : Layer}

/-- A section that is flat in a layer is checked as a mapping, an empty
one if it is not there. -/
theorem exists_of_checkOverride {α : Type} {name expected : String}
    {fallback a : α} {take? : ReadySettings → Option α}
    {check : Value → Checked α} (hflat : layer.FlatAt name)
    (h : checkOverride name expected fallback take? check layer = passed a)
    (hempty : check (.map []) = passed fallback) :
    ∃ entries : Entries, check (.map entries) = passed a
      ∧ ∀ key, layer.at? name key = entries.get? (.text key) := by
  unfold checkOverride at h
  unfold Layer.at?
  cases hlookup : layer.lookup (.text name) with
  | none =>
      rw [hlookup] at h
      cases h
      exact ⟨[], hempty, fun _ => rfl⟩
  | some o =>
      obtain ⟨entries, rfl, -⟩ :=
        Override.exists_of_isFlat (hflat o hlookup)
      rw [hlookup] at h
      exact ⟨entries, under_eq_passed.mp h, fun key =>
        Value.at?_map_singleton entries key⟩

/-- Sections that were accepted together were accepted each. -/
theorem Layer.exists_of_check {s : Settings}
    (hflat : ∀ part, IsSection part → layer.FlatAt part)
    (h : layer.check homes = passed s) :
    ∃ logging extraction : Entries,
      LoggingSettings.check homes (.map logging) = passed s.logging
      ∧ ExtractionSettings.check (.map extraction) = passed s.extraction
      ∧ (∀ key, layer.at? "logging" key = logging.get? (.text key))
      ∧ ∀ key, layer.at? "extraction" key = extraction.get? (.text key) := by
  unfold Layer.check at h
  dsimp only at h
  split at h
  next =>
    obtain ⟨_, e, hfirst, hsecond, rfl⟩ := ap_eq_passed.mp h
    obtain ⟨l, hfirst', rfl⟩ := map_eq_passed.mp hfirst
    obtain ⟨logging, hl, hlkeys⟩ :=
      exists_of_checkOverride (hflat _ (.inl rfl)) hfirst' rfl
    obtain ⟨extraction, he, hekeys⟩ :=
      exists_of_checkOverride (hflat _ (.inr rfl)) hsecond rfl
    exact ⟨logging, extraction, hl, he, hlkeys, hekeys⟩
  next =>
    obtain ⟨_, _, -, hfailed, -⟩ := ap_eq_passed.mp h
    cases hfailed

-- ================================================================== loads

/-- The settings that a load ends with have passed two checks. -/
theorem SettingsSources.exists_of_load {s : SettingsSources}
    {overrides : List (String × Override)} {settings : Settings}
    (h : s.load overrides = .ok settings) :
    ∃ layer first, s.layer overrides = .ok layer
      ∧ layer.check s.homes = passed first
      ∧ Settings.check s.homes first.toValue = passed settings := by
  obtain ⟨layer, hlayer, h⟩ := exists_of_bind_eq_ok h
  dsimp only at h
  split at h
  next => cases h
  next =>
    split at h
    next => cases h
    next => cases h
    next => cases h
    next first hfirst =>
      refine ⟨layer, first, hlayer, hfirst, ?_⟩
      split at h
      next again hagain =>
        cases h
        exact hagain
      next => cases h
      next => cases h

end Outline
