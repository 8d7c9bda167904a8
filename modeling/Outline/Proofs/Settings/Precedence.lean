/-
Every setting comes from the first source that gives it.

A setting has a section and a key, and its value depends on nothing else
in any source. The layers of the sources, laid over each other, hold under
the key what the first of them holds (`FlatSources.layers_flatAt`); the
check of a section reads its fields one by one (`Layer.takes_of_check`);
and the second check of the outcome changes nothing, because it reads
settings back from their own document (`FlatSources.check_of_load`).
-/
import Outline.Proofs.Settings.Layers
import Outline.Settings.Reader

namespace Outline

open Keyed Checked

variable {homes : Homes} {layer : Layer}

-- =============================================================== settings

/-- A single setting, by the type of its values. -/
inductive Setting : Type → Type where
  | level : Setting Severity
  | outputs : Setting (List LogOutput)
  | includeContent : Setting Bool
  | resolveScopes : Setting Bool
  | languages : Setting (Option (List String))
  | strictQueries : Setting Bool
  | maxFileSizeMb : Setting Int
  | maxWorkers : Setting Int
  | fileTimeout : Setting (Option Binary64)

namespace Setting

variable {α : Type}

/-- The section of a setting. -/
def part : Setting α → String
  | .level | .outputs => "logging"
  | _ => "extraction"

/-- The key of a setting in its section. -/
def key : Setting α → String
  | .level => "level"
  | .outputs => "outputs"
  | .includeContent => "include_content"
  | .resolveScopes => "resolve_scopes"
  | .languages => "languages"
  | .strictQueries => "strict_queries"
  | .maxFileSizeMb => "max_file_size_mb"
  | .maxWorkers => "max_workers"
  | .fileTimeout => "file_timeout_sec"

/-- The value of a setting. -/
def get : Setting α → Settings → α
  | .level, s => s.logging.level
  | .outputs, s => s.logging.outputs
  | .includeContent, s => s.extraction.includeContent
  | .resolveScopes, s => s.extraction.resolveScopes
  | .languages, s => s.extraction.languages
  | .strictQueries, s => s.extraction.strictQueries
  | .maxFileSizeMb, s => s.extraction.maxFileSizeMb
  | .maxWorkers, s => s.extraction.maxWorkers
  | .fileTimeout, s => s.extraction.fileTimeout

/-- How a value that is given for a setting is read. -/
def check (homes : Homes) : Setting α → Value → Checked α
  | .level => checkLevel
  | .outputs => checkList (LogOutput.check homes)
  | .includeContent | .resolveScopes | .strictQueries => checkBool
  | .languages => checkOptional (checkList checkText)
  | .maxFileSizeMb | .maxWorkers => checkPositive
  | .fileTimeout => checkTimeout

/-- The value that a setting takes: what was given for it, as it is read,
or its default. -/
def Takes (homes : Homes) (x : Setting α) (given : Option Value) (a : α) :
    Prop :=
  match given with
  | some v => x.check homes v = passed a
  | none => a = x.get {}

theorem takes_of_checkField {x : Setting α} {e : Entries} {a : α}
    (h : checkField e x.key (x.get {}) (x.check homes) = passed a) :
    x.Takes homes (e.get? (.text x.key)) a := by
  unfold checkField at h
  unfold Takes
  split at h
  next hnone =>
    cases h
    rw [hnone]
  next v hsome =>
    rw [hsome]
    exact under_eq_passed.mp h

/-- There is one thing only that a setting takes. -/
theorem Takes.unique {x : Setting α} {given : Option Value} {a b : α}
    (ha : x.Takes homes given a) (hb : x.Takes homes given b) : a = b := by
  cases given with
  | none => exact ha.trans hb.symm
  | some v => exact passed.inj (ha.symm.trans hb)

theorem takes_logging {x : Setting α} {e : Entries} {s : Settings}
    (h : LoggingSettings.check homes (.map e) = passed s.logging)
    (hpart : x.part = "logging") :
    x.Takes homes (e.get? (.text x.key)) (x.get s) := by
  obtain ⟨_, outputs, h₁, houtputs, hs⟩ := ap_eq_passed.mp h
  obtain ⟨level, hlevel, rfl⟩ := map_eq_passed.mp h₁
  cases x with
  | level =>
      rw [get, ← hs]
      exact takes_of_checkField hlevel
  | outputs =>
      rw [get, ← hs]
      exact takes_of_checkField houtputs
  | _ => exact absurd hpart (by decide)

theorem takes_extraction {x : Setting α} {e : Entries} {s : Settings}
    (h : ExtractionSettings.check (.map e) = passed s.extraction)
    (hpart : x.part = "extraction") :
    x.Takes homes (e.get? (.text x.key)) (x.get s) := by
  obtain ⟨_, timeout, h₆, htimeout, hs⟩ := ap_eq_passed.mp h
  obtain ⟨_, workers, h₅, hworkers, rfl⟩ := ap_eq_passed.mp h₆
  obtain ⟨_, size, h₄, hsize, rfl⟩ := ap_eq_passed.mp h₅
  obtain ⟨_, strict, h₃, hstrict, rfl⟩ := ap_eq_passed.mp h₄
  obtain ⟨_, languages, h₂, hlanguages, rfl⟩ := ap_eq_passed.mp h₃
  obtain ⟨_, scopes, h₁, hscopes, rfl⟩ := ap_eq_passed.mp h₂
  obtain ⟨content, hcontent, rfl⟩ := map_eq_passed.mp h₁
  cases x with
  | includeContent => rw [get, ← hs]; exact takes_of_checkField hcontent
  | resolveScopes => rw [get, ← hs]; exact takes_of_checkField hscopes
  | languages => rw [get, ← hs]; exact takes_of_checkField hlanguages
  | strictQueries => rw [get, ← hs]; exact takes_of_checkField hstrict
  | maxFileSizeMb => rw [get, ← hs]; exact takes_of_checkField hsize
  | maxWorkers => rw [get, ← hs]; exact takes_of_checkField hworkers
  | fileTimeout => rw [get, ← hs]; exact takes_of_checkField htimeout
  | _ => exact absurd hpart (by decide)

theorem isSection_part (x : Setting α) : IsSection x.part := by
  cases x with
  | level | outputs => exact .inl rfl
  | _ => exact .inr rfl

/-- The key of a setting is never cut. -/
theorem isWhole_key (x : Setting α) : Environment.IsWhole x.key := by
  cases x <;> rfl

end Setting

/-- In sections that were accepted every setting takes what is given for
it. -/
theorem Layer.takes_of_check {α : Type} {s : Settings}
    (hflat : ∀ part, IsSection part → layer.FlatAt part)
    (h : layer.check homes = passed s) (x : Setting α) :
    x.Takes homes (layer.at? x.part x.key) (x.get s) := by
  obtain ⟨logging, extraction, hl, he, hlkeys, hekeys⟩ :=
    exists_of_check hflat h
  rcases x.isSection_part with hpart | hpart
  · rw [hpart, hlkeys]
    exact Setting.takes_logging hl hpart
  · rw [hpart, hekeys]
    exact Setting.takes_extraction he hpart

-- ================================================================ sources

/-- A value that is a mapping with no mapping in it. -/
def Value.IsFlat : Value → Prop
  | .map entries => ∀ e ∈ entries, e.2.isMap = false
  | _ => False

instance : DecidablePred Value.IsFlat := fun v =>
  match v with
  | .map entries =>
    inferInstanceAs (Decidable (∀ e ∈ entries, e.2.isMap = false))
  | .null | .bool _ | .int _ | .float _ | .date _ | .timestamp _ | .text _
  | .bytes _ | .list _ | .group _ _ => .isFalse id

/-- Entries in which every section that is mentioned is a mapping with no
mapping in it. -/
def Entries.FlatSections (entries : Entries) : Prop :=
  ∀ part v, IsSection part → entries.get? (.text part) = some v → v.IsFlat

instance : DecidablePred Entries.FlatSections := fun entries =>
  decidable_of_iff
    ((∀ v ∈ entries.get? (.text "logging"), v.IsFlat)
      ∧ ∀ v ∈ entries.get? (.text "extraction"), v.IsFlat)
    ⟨fun h _ v hpart hv => hpart.elim
        (fun hlogging => h.1 v (hlogging ▸ hv))
        (fun hextraction => h.2 v (hextraction ▸ hv)),
      fun h => ⟨fun v hv => h _ v (.inl rfl) hv,
        fun v hv => h _ v (.inr rfl) hv⟩⟩

/-- Sections with distinct keys make a flat layer. -/
theorem Entries.FlatSections.flatAt {entries : Entries} {part : String}
    (h : entries.FlatSections) (hpart : IsSection part)
    (hdistinct : ∀ fields, entries.get? (.text part) = some (.map fields) →
      (keys fields).Nodup) : (Layer.ofEntries entries).FlatAt part := by
  intro o ho
  rw [Layer.lookup_ofEntries] at ho
  obtain ⟨v, hv, rfl⟩ := Option.map_eq_some_iff.mp ho
  have hflat := h part v hpart hv
  cases v with
  | map fields => exact ⟨hdistinct fields hv, hflat⟩
  | _ => exact hflat.elim

/-- The entries of a settings document are distinct, and so is everything
in them, because its reader builds them so. -/
theorem SettingsDocument.distinct_read {reader : DocumentReader}
    {files : FileSystem} {path : String} {entries : Entries}
    (h : read reader files path = .ok entries) :
    (Value.map entries).Distinct := by
  have hnil : (Value.map []).Distinct := by
    refine .map List.nodup_nil fun e he => ?_
    cases he
  unfold read at h
  split at h
  next => cases h
  next =>
    cases h
    exact hnil
  next bytes _ =>
    unfold ofReading at h
    split at h
    next => cases h
    next => cases h
    next v hv =>
      split at h
      next =>
        cases h
        exact hnil
      next =>
        split at h
        next =>
          cases h
          exact reader.distinct hv
        next => cases h

/-- Sources of settings, as they were read, in which every section that
is mentioned is a mapping from keys to values that are no mappings.
Variables give single keys, not whole sections. -/
structure FlatSources extends SettingsSources where
  overrides : List (String × Override)
  /-- The document of the user. -/
  user : Entries
  /-- The document of the directory. -/
  directory : Entries
  /-- What the variables of the environment come to. -/
  surroundings : Entries
  user_read : SettingsDocument.read reader files userDocument = .ok user
  directory_read : SettingsDocument.read reader files
    toSettingsSources.directoryDocument = .ok directory
  surroundings_read : environment.settings json = .ok surroundings
  overrides_flat : ∀ part o, IsSection part →
    overrides.lookup part = some o → o.IsFlat
  user_flat : user.FlatSections
  directory_flat : directory.FlatSections
  surroundings_flat : surroundings.FlatSections
  onlyKeys : ∀ part, IsSection part → environment.OnlyKeys part

namespace FlatSources

/-- What is given for a key: by the overrides, or else by the environment,
or else by the document of the directory, or else by that of the user. -/
def given? (s : FlatSources) (part key : String) : Option Value :=
  ((s.overrides.lookup part).bind (·.at? key)).or <|
    (s.environment.value? s.json part key).or <|
    ((Value.map s.directory).at? [.text part, .text key]).or
    ((Value.map s.user).at? [.text part, .text key])

/-- The layers of the sources. -/
def layers (s : FlatSources) : Layer :=
  (Layer.ofEntries (Entries.merge s.user s.directory)).merge
    ((Layer.ofEntries s.surroundings).merge (Layer.ofOverrides s.overrides))

theorem layer_eq (s : FlatSources) :
    s.layer s.overrides = .ok s.layers := by
  rw [SettingsSources.layer, s.user_read, s.directory_read,
    s.surroundings_read, layers]
  rfl

theorem user_flatAt (s : FlatSources) {part : String}
    (hpart : IsSection part) : (Layer.ofEntries s.user).FlatAt part :=
  s.user_flat.flatAt hpart fun _ hfields =>
    (SettingsDocument.distinct_read s.user_read).nodup_get? hfields

theorem directory_flatAt (s : FlatSources) {part : String}
    (hpart : IsSection part) : (Layer.ofEntries s.directory).FlatAt part :=
  s.directory_flat.flatAt hpart fun _ hfields =>
    (SettingsDocument.distinct_read s.directory_read).nodup_get? hfields

theorem surroundings_flatAt (s : FlatSources) {part : String}
    (hpart : IsSection part) : (Layer.ofEntries s.surroundings).FlatAt part :=
  s.surroundings_flat.flatAt hpart fun fields hfields => by
    have hsection := Environment.get?_settings s.surroundings_read hpart
    rw [hfields] at hsection
    exact Environment.nodup_sectionValue hsection

theorem overrides_flatAt (s : FlatSources) {part : String}
    (hpart : IsSection part) : (Layer.ofOverrides s.overrides).FlatAt part := by
  intro o ho
  rw [(Layer.lookup_ofOverrides s.overrides hpart).1] at ho
  exact s.overrides_flat part o hpart ho

/-- What the environment comes to is what its variables give. -/
theorem at?_surroundings (s : FlatSources) {part key : String}
    (hpart : IsSection part) (hkey : Environment.IsWhole key) :
    (Layer.ofEntries s.surroundings).at? part key
      = s.environment.value? s.json part key := by
  rw [Layer.at?_ofEntries]
  refine Environment.at?_settings s.surroundings_read hpart
    (s.onlyKeys part hpart) hkey fun fields hfields hmap => ?_
  obtain ⟨inner, hinner⟩ := hmap
  have hplain := s.surroundings_flat part _ hpart hfields
  obtain ⟨before, after, rfl, -⟩ := List.lookup_eq_some_iff.mp hinner
  cases hplain (.text key, .map inner) (by simp)

/-- All layers together are flat, and give what the first of them
gives. -/
theorem layers_flatAt (s : FlatSources) {part : String}
    (hpart : IsSection part) :
    s.layers.FlatAt part
      ∧ ∀ key, Environment.IsWhole key →
        s.layers.at? part key = s.given? part key := by
  obtain ⟨hoverrides, honce⟩ := Layer.lookup_ofOverrides s.overrides hpart
  -- the documents
  have hdirectory := (SettingsDocument.distinct_read s.directory_read).nodup
  obtain ⟨hdocuments, hdocuments_at⟩ := (s.user_flatAt hpart).merge_ofEntries
    (s.directory_flatAt hpart) (count_le_one hdirectory _)
  -- the environment and the overrides
  obtain ⟨hupper, hupper_at⟩ := (s.surroundings_flatAt hpart).merge
    (s.overrides_flatAt hpart) honce
  have hdistinct : (keys ((Layer.ofEntries s.surroundings).merge
      (Layer.ofOverrides s.overrides))).Nodup := by
    rw [Layer.merge_eq_overlay]
    refine nodup_overlay _ ?_ _
    rw [Layer.keys_ofEntries]
    exact Environment.nodup_settings s.surroundings_read
  obtain ⟨hall, hall_at⟩ := hdocuments.merge hupper (count_le_one hdistinct _)
  refine ⟨hall, fun key hkey => ?_⟩
  rw [layers, hall_at, hupper_at, hdocuments_at, s.at?_surroundings hpart hkey,
    Layer.at?_ofEntries, Layer.at?_ofEntries, Layer.at?, hoverrides,
    Option.or_assoc]
  rfl

/-- The second check of a run changes nothing. -/
theorem check_of_load (s : FlatSources) {settings : Settings}
    (h : s.load s.overrides = .ok settings) :
    s.layers.check s.homes = passed settings := by
  obtain ⟨layer, first, hlayer, hfirst, hagain⟩ :=
    SettingsSources.exists_of_load h
  rw [s.layer_eq] at hlayer
  cases hlayer
  obtain ⟨logging, extraction, hlogging, hextraction, -, -⟩ :=
    Layer.exists_of_check (fun _ hpart => (s.layers_flatAt hpart).1) hfirst
  rw [Settings.check_toValue s.homes
    (LoggingSettings.valid_of_check hlogging)
    (ExtractionSettings.valid_of_check hextraction)] at hagain
  cases hagain
  exact hfirst

theorem takes_of_load {α : Type} (s : FlatSources) {settings : Settings}
    (h : s.load s.overrides = .ok settings) (x : Setting α) :
    x.Takes s.homes (s.given? x.part x.key) (x.get settings) := by
  have hlayers := Layer.takes_of_check
    (fun _ hpart => (s.layers_flatAt hpart).1) (s.check_of_load h) x
  rwa [(s.layers_flatAt x.isSection_part).2 x.key x.isWhole_key] at hlayers

/-- Every setting of a run takes what the first source that gives it
says, or its default if none does; and sources that give the same for it
make the same of it, whatever else they give. -/
theorem load_takes_first_given {α : Type} (s : FlatSources)
    (settings : Settings) (h : s.load s.overrides = .ok settings)
    (x : Setting α) :
    x.Takes s.homes (s.given? x.part x.key) (x.get settings)
      ∧ ∀ (t : FlatSources) (settings' : Settings), t.homes = s.homes →
        t.load t.overrides = .ok settings' →
        t.given? x.part x.key = s.given? x.part x.key →
        x.get settings' = x.get settings := by
  refine ⟨s.takes_of_load h x, fun t settings' hhomes ht hgiven => ?_⟩
  have hother := t.takes_of_load ht x
  rw [hhomes, hgiven] at hother
  exact hother.unique (s.takes_of_load h x)

/-- A directory and an environment that disagree about the number of
workers, and a user who says nothing about it. -/
def workerSources : SettingsSources where
  files :=
    { entries := [
        (["u"], .file "logging:\n  level: ERROR\n".toUTF8.toList),
        (["r"], .directory), (["r", ".codestruct"], .directory),
        (["r", ".codestruct", "config.yaml"], .file
          "extraction:\n  max_workers: 3\n".toUTF8.toList)] }
  environment := [("CODESTRUCT__EXTRACTION__MAX_WORKERS", "4"),
    ("Codestruct__Extraction__Resolve_Scopes", "on")]
  reader := Yaml.reader
  json := Json.reader
  userDocument := "/u"
  root := some "/r"

/-- An override of the number of workers, and of nothing else. -/
def workerOverrides : List (String × Override) :=
  [("extraction", .value (.map [(.text "max_workers", .int 5)]))]

theorem exists_workerSources : ∃ s : FlatSources,
    s.toSettingsSources = workerSources ∧ s.overrides = workerOverrides := by
  obtain ⟨user, huser, huser_flat⟩ := exists_of_toOption_any
    (show (SettingsDocument.read Yaml.reader workerSources.files
      workerSources.userDocument).toOption.any (Entries.FlatSections ·) = true
      by decide +kernel)
  obtain ⟨directory, hdirectory, hdirectory_flat⟩ := exists_of_toOption_any
    (show (SettingsDocument.read Yaml.reader workerSources.files
      workerSources.directoryDocument).toOption.any (Entries.FlatSections ·)
        = true by decide +kernel)
  obtain ⟨surroundings, hsurroundings, hsurroundings_flat⟩ :=
    exists_of_toOption_any (show
      (workerSources.environment.settings Json.reader).toOption.any
        (Entries.FlatSections ·) = true by decide +kernel)
  refine ⟨⟨workerSources, workerOverrides, user, directory, surroundings, huser,
    hdirectory, hsurroundings, ?_, huser_flat, hdirectory_flat,
    hsurroundings_flat, ?_⟩, rfl, rfl⟩
  · rintro _ o (rfl | rfl) ho
    · cases ho
    · cases ho
      exact ⟨by decide, by decide⟩
  · rintro _ (rfl | rfl)
    · unfold Environment.OnlyKeys
      decide +kernel
    · unfold Environment.OnlyKeys
      decide +kernel

/-- The override counts, the environment gives what it does not give, and
the documents give what neither does; nobody asks for strict queries. -/
theorem load_takes_first_given_workers : ∃ s : FlatSources,
    s.toSettingsSources = workerSources ∧ s.overrides = workerOverrides
    ∧ ∃ settings, s.load s.overrides = .ok settings
      ∧ settings =
        { logging := { level := .error }
          extraction := { resolveScopes := true, maxWorkers := 5 } }
      ∧ s.given? "extraction" "max_workers" = some (.int 5)
      ∧ Setting.maxWorkers.Takes s.homes (some (.int 5))
        settings.extraction.maxWorkers
      ∧ Setting.resolveScopes.Takes s.homes
        (s.given? "extraction" "resolve_scopes")
        settings.extraction.resolveScopes
      ∧ Setting.level.Takes s.homes (s.given? "logging" "level")
        settings.logging.level := by
  obtain ⟨s, hs, hoverrides⟩ := exists_workerSources
  obtain ⟨settings, hload, hsettings⟩ : ∃ settings,
      workerSources.load workerOverrides = .ok settings
        ∧ settings =
          { logging := { level := .error }
            extraction := { resolveScopes := true, maxWorkers := 5 } } :=
    exists_of_toOption_any (by decide +kernel)
  rw [← hs, ← hoverrides] at hload
  have hgiven : s.given? "extraction" "max_workers" = some (.int 5) := by
    rw [given?, hoverrides]
    rfl
  refine ⟨s, hs, hoverrides, settings, hload, hsettings, hgiven, ?_,
    (s.load_takes_first_given settings hload .resolveScopes).1,
    (s.load_takes_first_given settings hload .level).1⟩
  rw [← hgiven]
  exact (s.load_takes_first_given settings hload .maxWorkers).1

end FlatSources

end Outline
