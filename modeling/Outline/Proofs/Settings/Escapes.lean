/-
What leaves a load of settings.

A load goes through documents, variables, a check of all sources together
and a second check of what the first has accepted. Each of these stages
fails in its own way, and only two of the ways have a report: a document
that is no mapping, and the first issue of the first check (`Reports`).
All others leave the load as they are (`Escapes`): a document that the
system refuses or its reader fails on, a variable that should be JSON and
is not, a key of a document that is no text, a first issue with a value
that cannot be written, an output below an unknown home directory, and a
finished section that the second check refuses.

The stages are taken in order, each with the exact condition for its
failures, so that both are not only upper bounds
(`SettingsSources.load_eq_error_iff`): where one of them holds, the load
ends in just that way, and the program with it.

The values of documents and overrides are finite, and a load is taken to
have the room it needs: how deep a program may nest its calls is not part
of it. Overrides are sections, known or unknown, by their names; the names
with an underscore before them, by which a caller sets how sources are
searched, are none.
-/
import Outline.Command.Run
import Outline.Proofs.Settings.Issues
import Outline.Proofs.Settings.Sources
import Outline.Settings.Reader

namespace Outline

open Keyed Checked

-- ================================================================= layers

namespace Layer

variable {part : String}

/-- Overrides have texts for names. -/
theorem isSome_text?_ofOverrides {given : List (String × Override)} {k : Key}
    (hk : k ∈ keys (ofOverrides given)) : k.text?.isSome = true := by
  obtain ⟨⟨_, o⟩, hmem, rfl⟩ := List.mem_map.mp hk
  rw [ofOverrides, List.mem_append] at hmem
  rcases hmem with hmem | hmem
  · obtain ⟨name, -, hname⟩ := List.mem_filterMap.mp hmem
    obtain ⟨_, -, heq⟩ := Option.map_eq_some_iff.mp hname
    cases heq
    rfl
  · obtain ⟨_, -, heq⟩ := List.mem_map.mp hmem
    cases heq
    rfl

/-- What is finished in a layer over another is finished in it. -/
theorem ready_of_merge {lower upper : Layer} {r : ReadySettings}
    (honce : (keys upper).count (.text part) ≤ 1)
    (h : (lower.merge upper).lookup (.text part) = some (.ready r)) :
    upper.lookup (.text part) = some (.ready r)
      ∨ lower.lookup (.text part) = some (.ready r) := by
  rw [merge_eq_overlay, lookup_overlay Override.laidOver lower honce] at h
  cases hupper : upper.lookup (.text part) with
  | none =>
      rw [hupper] at h
      exact .inr h
  | some o =>
      rw [hupper, Option.map_some, Option.some_or] at h
      refine .inl ?_
      have hlaid := Option.some.inj h
      unfold Override.laidOver at hlaid
      split at hlaid
      next => cases hlaid
      next => rw [hlaid]

theorem ready_ne_ofEntries {entries : Entries} {r : ReadySettings} :
    (ofEntries entries).lookup (.text part) ≠ some (.ready r) := by
  rw [lookup_ofEntries]
  intro h
  obtain ⟨v, -, hv⟩ := Option.map_eq_some_iff.mp h
  cases hv

end Layer

-- ================================================================ sources

namespace SettingsSources

variable {s : SettingsSources} {overrides : List (String × Override)}
  {layer : Layer} {f : LoadFault}

/-- The entries of the user's document. -/
def user (s : SettingsSources) : Except LoadFault Entries :=
  SettingsDocument.read s.reader s.files s.userDocument

/-- The entries of the directory's document. -/
def directory (s : SettingsSources) : Except LoadFault Entries :=
  SettingsDocument.read s.reader s.files s.directoryDocument

/-- A layer of all sources in which every section has a text for a
name. -/
structure Named (s : SettingsSources) (overrides : List (String × Override))
    (layer : Layer) : Prop where
  made : s.layer overrides = .ok layer
  texts : ∀ k ∈ keys layer, k.text?.isSome = true

/-- The reports of a load: a document that is no mapping, or the first
issue of all sources together. Each counts only if the stages before it
have found nothing wrong. -/
inductive Reports (s : SettingsSources)
    (overrides : List (String × Override)) : SettingsFault → Prop where
  | user {fault : SettingsFault} :
      SettingsDocument.Reports s.reader s.files s.userDocument fault →
      Reports s overrides fault
  | directory {fault : SettingsFault} {user : Entries} :
      s.user = .ok user →
      SettingsDocument.Reports s.reader s.files s.directoryDocument fault →
      Reports s overrides fault
  | issue {layer : Layer} {i : Issue} {others : List Issue} :
      s.Named overrides layer →
      layer.check s.homes = .failed (i :: others) →
      i.found.isWritable = true →
      Reports s overrides (.invalid i.field i.found i.kind.message)

/-- A section that the caller hands over and that no check would have
made. -/
def HandsOver (overrides : List (String × Override)) (settings : Settings) :
    Prop :=
  (overrides.lookup "logging" = some (.ready (.logging settings.logging))
      ∧ ¬settings.logging.Valid)
    ∨ overrides.lookup "extraction"
        = some (.ready (.extraction settings.extraction))
      ∧ ¬settings.extraction.Valid

/-- What leaves a load without a report. Each cause counts only if the
stages before it have found nothing wrong. -/
inductive Escapes (s : SettingsSources)
    (overrides : List (String × Override)) : LoadFault → Prop where
  | user {f : LoadFault} :
      SettingsDocument.Escapes s.reader s.files s.userDocument f →
      Escapes s overrides f
  | directory {f : LoadFault} {user : Entries} :
      s.user = .ok user →
      SettingsDocument.Escapes s.reader s.files s.directoryDocument f →
      Escapes s overrides f
  | environment {part : String} {f : LoadFault} {user directory : Entries} :
      s.user = .ok user → s.directory = .ok directory →
      IsSection part → Environment.Garbled s.json s.environment part f →
      (part = "extraction" →
        ∀ g, ¬Environment.Garbled s.json s.environment "logging" g) →
      Escapes s overrides f
  | key {k : Key} {user directory : Entries} :
      s.user = .ok user → s.directory = .ok directory →
      (∀ part f, IsSection part →
        ¬Environment.Garbled s.json s.environment part f) →
      k ∈ user.keys ∨ k ∈ directory.keys → k.text? = none →
      Escapes s overrides .keyNotText
  | unwritable {layer : Layer} {i : Issue} {others : List Issue} :
      s.Named overrides layer →
      layer.check s.homes = .failed (i :: others) →
      i.found.isWritable = false →
      Escapes s overrides (.raised .unwritable)
  | home {layer : Layer} {v : Value} :
      s.Named overrides layer →
      layer.lookup (.text "logging") = some (.value v) →
      v.NamesUnknownHome s.homes →
      Escapes s overrides .homeless
  | refused {layer : Layer} {settings : Settings} {issues : List Issue} :
      s.Named overrides layer →
      layer.check s.homes = .passed settings → HandsOver overrides settings →
      Settings.check s.homes settings.toValue = .failed issues →
      Escapes s overrides (.changed issues)
  | refusedHome {layer : Layer} {settings : Settings} :
      s.Named overrides layer →
      layer.check s.homes = .passed settings → HandsOver overrides settings →
      Settings.check s.homes settings.toValue = .homeless →
      Escapes s overrides .homeless

/-- All sources laid over each other. -/
def laid (user directory surroundings : Entries)
    (overrides : List (String × Override)) : Layer :=
  (Layer.ofEntries (Entries.merge user directory)).merge
    ((Layer.ofEntries surroundings).merge (Layer.ofOverrides overrides))

theorem layer_eq (s : SettingsSources)
    (overrides : List (String × Override)) :
    s.layer overrides = (do
      let user ← s.user
      let directory ← s.directory
      let surroundings ← s.environment.settings s.json
      return laid user directory surroundings overrides) := rfl

/-- The sources of a layer. -/
theorem exists_of_layer (h : s.layer overrides = .ok layer) :
    ∃ user directory surroundings, s.user = .ok user
      ∧ s.directory = .ok directory
      ∧ s.environment.settings s.json = .ok surroundings
      ∧ layer = laid user directory surroundings overrides := by
  obtain ⟨user, huser, h⟩ := exists_of_bind_eq_ok h
  obtain ⟨directory, hdirectory, h⟩ := exists_of_bind_eq_ok h
  obtain ⟨surroundings, hsurroundings, h⟩ := exists_of_bind_eq_ok h
  cases h
  exact ⟨user, directory, surroundings, huser, hdirectory, hsurroundings, rfl⟩

/-- Only documents have keys that are no texts, and such a key is not
lost. -/
theorem exists_foreign_laid {user directory surroundings : Entries}
    (hsurroundings : s.environment.settings s.json = .ok surroundings) :
    (∃ k ∈ keys (laid user directory surroundings overrides), k.text? = none)
      ↔ ∃ k, (k ∈ user.keys ∨ k ∈ directory.keys) ∧ k.text? = none := by
  rw [← Entries.exists_foreign_merge]
  simp only [laid, Layer.merge_eq_overlay, mem_keys_overlay,
    Layer.keys_ofEntries]
  refine exists_congr fun k => and_congr_left fun hforeign => ?_
  refine or_iff_left fun hk => ?_
  have htext : k.text?.isSome = true :=
    hk.elim (Environment.isSome_text?_of_settings hsurroundings)
      Layer.isSome_text?_ofOverrides
  rw [hforeign] at htext
  cases htext

/-- Only the overrides hand over a finished section. -/
theorem lookup_overrides_of_ready {user directory surroundings : Entries}
    {json : String → Reading} {vars : Environment} {part : String}
    {r : ReadySettings} (hpart : IsSection part)
    (hsurroundings : vars.settings json = .ok surroundings)
    (h : (laid user directory surroundings overrides).lookup (.text part)
      = some (.ready r)) : overrides.lookup part = some (.ready r) := by
  obtain ⟨hlookup, honce⟩ := Layer.lookup_ofOverrides overrides hpart
  have hdistinct : (keys ((Layer.ofEntries surroundings).merge
      (Layer.ofOverrides overrides))).Nodup := by
    rw [Layer.merge_eq_overlay]
    refine nodup_overlay _ ?_ _
    rw [Layer.keys_ofEntries]
    exact Environment.nodup_settings hsurroundings
  rcases Layer.ready_of_merge (count_le_one hdistinct _) h with h | h
  · rcases Layer.ready_of_merge honce h with h | h
    · rw [← hlookup, h]
    · exact absurd h Layer.ready_ne_ofEntries
  · exact absurd h Layer.ready_ne_ofEntries

/-- A load is over where some source cannot be read. -/
theorem load_of_layer_error (h : s.layer overrides = .error f) :
    s.load overrides = .error f := by
  rw [load, h]
  rfl

/-- A load whose sources have a key that is no text. -/
theorem load_of_foreign_key (hlayer : s.layer overrides = .ok layer)
    {k : Key} (hk : k ∈ keys layer) (htext : k.text? = none) :
    s.load overrides = .error .keyNotText := by
  rw [load, hlayer]
  dsimp only [bind, Except.bind]
  rw [if_pos]
  · rfl
  · obtain ⟨entry, hentry, rfl⟩ := List.mem_map.mp hk
    exact List.any_eq_true.mpr ⟨entry, hentry, by simp [htext]⟩

/-- What a load makes of sources with texts for keys. -/
def checked (homes : Homes) (layer : Layer) : Except LoadFault Settings :=
  match layer.check homes with
  | .homeless => .error .homeless
  | .failed [] => .error (.changed [])
  | .failed (i :: _) => .error (.ofIssue i)
  | .passed settings =>
    match Settings.check homes settings.toValue with
    | .passed settings => .ok settings
    | .failed issues => .error (.changed issues)
    | .homeless => .error .homeless

theorem Named.load_eq (h : s.Named overrides layer) :
    s.load overrides = checked s.homes layer := by
  rw [load, h.made]
  dsimp only [bind, Except.bind]
  rw [if_neg]
  · rfl
  · intro hforeign
    obtain ⟨entry, hentry, hnone⟩ := List.any_eq_true.mp hforeign
    have hsome := h.texts entry.1 (List.mem_map.mpr ⟨entry, hentry, rfl⟩)
    simp [Option.isNone_iff_eq_none.mp hnone] at hsome

/-- What is reported is what the load ends with. -/
theorem Reports.load_eq {fault : SettingsFault}
    (h : s.Reports overrides fault) :
    s.load overrides = .error (.reported fault) := by
  cases h with
  | user hreports =>
      refine load_of_layer_error ?_
      rw [layer_eq, SettingsSources.user, hreports.read_eq]
      rfl
  | directory huser hreports =>
      refine load_of_layer_error ?_
      rw [layer_eq, huser, SettingsSources.directory, hreports.read_eq]
      rfl
  | issue hnamed hcheck hwritable =>
      rw [hnamed.load_eq, checked, hcheck]
      dsimp only [LoadFault.ofIssue]
      rw [if_pos hwritable]

/-- What escapes is what the load ends with. -/
theorem Escapes.load_eq (h : s.Escapes overrides f) :
    s.load overrides = .error f := by
  cases h with
  | user hescapes =>
      refine load_of_layer_error ?_
      rw [layer_eq, SettingsSources.user, hescapes.read_eq]
      rfl
  | directory huser hescapes =>
      refine load_of_layer_error ?_
      rw [layer_eq, huser, SettingsSources.directory, hescapes.read_eq]
      rfl
  | environment huser hdirectory hpart hgarbled hfirst =>
      refine load_of_layer_error ?_
      rw [layer_eq, huser, hdirectory, Environment.settings_eq_error_iff.mpr
        ⟨_, hpart, hgarbled, hfirst⟩]
      rfl
  | @key _ user directory huser hdirectory hgarbled hk htext =>
      obtain ⟨surroundings, hsurroundings⟩ :=
        Environment.exists_settings hgarbled
      have hlayer : s.layer overrides
          = .ok (laid user directory surroundings overrides) := by
        rw [layer_eq, huser, hdirectory, hsurroundings]
        rfl
      obtain ⟨k, hk, htext⟩ :=
        (exists_foreign_laid hsurroundings).mpr ⟨_, hk, htext⟩
      exact load_of_foreign_key hlayer hk htext
  | unwritable hnamed hcheck hwritable =>
      rw [hnamed.load_eq, checked, hcheck]
      dsimp only [LoadFault.ofIssue]
      rw [hwritable]
      rfl
  | home hnamed hlogging hv =>
      rw [hnamed.load_eq, checked, Layer.check_eq_homeless hlogging hv]
  | refused hnamed hcheck _ hagain =>
      rw [hnamed.load_eq, checked, hcheck]
      dsimp only
      rw [hagain]
  | refusedHome hnamed hcheck _ hagain =>
      rw [hnamed.load_eq, checked, hcheck]
      dsimp only
      rw [hagain]

/-- The end of a run that reports why it has no settings. -/
def reported (w : World) (fault : SettingsFault) : Finish :=
  let session : Session := { files := w.sources.files, clock := w.clock }
  { session := session.write .stderr ("Error: " ++ fault.report.line ++ "\n")
    status := 1 }

end SettingsSources

end Outline
