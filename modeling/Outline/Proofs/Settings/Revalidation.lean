/-
The second check changes nothing.

Settings are checked when their sources have been laid over each other,
then once more as a whole, and each section again in every worker. A check
may rewrite what it reads: a tilde becomes a directory, a path its normal
form, a text a number. What it makes of it is not rewritten any more,
because the settings that a check can make are those whose own document is
accepted (`accepted_iff_valid`), and this document is read back as they are.

So each later check can be left out. A load that checks once has the same
result (`SettingsSources.load_eq_loadOnce`), and so has a worker that takes
up its settings unchecked (`Worker.start_eq_startWith`). For the load this
needs that finished sections which the caller hands over have been through
a check of their own.
-/
import Outline.Proofs.Settings.Escapes

namespace Outline

open Keyed Checked

-- ===================================================== accepted settings

/-- Sections that a check makes of some document. -/
def LoggingSettings.Accepted (s : LoggingSettings) : Prop :=
  ∃ homes v, check homes v = passed s

/-- Sections that a check makes of some document. -/
def ExtractionSettings.Accepted (s : ExtractionSettings) : Prop :=
  ∃ v, check v = passed s

/-- Settings that a check makes of some document. -/
def Settings.Accepted (s : Settings) : Prop :=
  ∃ homes v, check homes v = passed s

theorem LoggingSettings.accepted_iff_valid {s : LoggingSettings} :
    s.Accepted ↔ s.Valid :=
  ⟨fun ⟨_, _, h⟩ => valid_of_check h, fun h => ⟨{}, _, check_toValue {} h⟩⟩

theorem ExtractionSettings.accepted_iff_valid {s : ExtractionSettings} :
    s.Accepted ↔ s.Valid :=
  ⟨fun ⟨_, h⟩ => valid_of_check h, fun h => ⟨_, check_toValue h⟩⟩

namespace Settings

theorem valid_of_check {homes : Homes} {v : Value} {s : Settings}
    (h : check homes v = passed s) :
    s.logging.Valid ∧ s.extraction.Valid := by
  unfold check checkSection at h
  split at h
  next entries =>
    obtain ⟨_, extraction, hfirst, hextraction, rfl⟩ := ap_eq_passed.mp h
    obtain ⟨logging, hlogging, rfl⟩ := map_eq_passed.mp hfirst
    constructor
    · rcases checkField_eq_passed hlogging with rfl | ⟨v, hv⟩
      · exact LoggingSettings.accepted_iff_valid.mp ⟨{}, .map [], rfl⟩
      · exact LoggingSettings.valid_of_check hv
    · rcases checkField_eq_passed hextraction with rfl | ⟨v, hv⟩
      · exact ExtractionSettings.accepted_iff_valid.mp ⟨.map [], rfl⟩
      · exact ExtractionSettings.valid_of_check hv
  next => cases h

theorem accepted_iff_valid {s : Settings} :
    s.Accepted ↔ s.logging.Valid ∧ s.extraction.Valid :=
  ⟨fun ⟨_, _, h⟩ => valid_of_check h,
    fun h => ⟨{}, _, check_toValue {} h.1 h.2⟩⟩

end Settings

/-- Destinations are the standard streams and the absolute paths in normal
form. -/
theorem isDestination_iff {d : String} : IsDestination d
    ↔ d = "stderr" ∨ d = "stdout"
      ∨ (LexicalPath.ofText d).isAbsolute = true ∧ normalPath d = d := by
  refine or_congr Iff.rfl (or_congr Iff.rfl ⟨?_, ?_⟩)
  · rintro ⟨p, hnormal, habsolute, rfl⟩
    rw [hnormal.ofText_toText]
    exact ⟨habsolute, hnormal.normalPath_toText⟩
  · rintro ⟨habsolute, hnormal⟩
    exact ⟨_, LexicalPath.normal_ofText d, habsolute, hnormal⟩

-- ================================================================== loads

namespace SettingsSources

/-- A load that checks the settings once. -/
def loadOnce (s : SettingsSources) (overrides : List (String × Override)) :
    Except LoadFault Settings := do
  let layer ← s.layer overrides
  if layer.any fun (k, _) => k.text?.isNone then throw .keyNotText
  match layer.check s.homes with
  | .homeless => throw .homeless
  | .failed [] => throw (.changed [])
  | .failed (i :: _) => throw (.ofIssue i)
  | .passed settings => return settings

/-- Finished sections among overrides have been through a check. -/
structure HandsOverAccepted (overrides : List (String × Override)) :
    Prop where
  logging : ∀ l, overrides.lookup "logging" = some (.ready (.logging l)) →
    l.Accepted
  extraction : ∀ e,
    overrides.lookup "extraction" = some (.ready (.extraction e)) →
      e.Accepted

variable {s : SettingsSources} {overrides : List (String × Override)}
  {layer : Layer} {settings : Settings}

/-- What the first check accepts is valid, section by section. -/
theorem valid_of_layer_check (hready : HandsOverAccepted overrides)
    (hlayer : s.layer overrides = .ok layer)
    (hcheck : layer.check s.homes = passed settings) :
    settings.logging.Valid ∧ settings.extraction.Valid := by
  obtain ⟨user, directory, surroundings, -, -, hsurroundings, rfl⟩ :=
    exists_of_layer hlayer
  obtain ⟨hlogging, hextraction⟩ := Layer.valid_or_ready hcheck
  constructor
  · refine hlogging.elim id fun hlookup => ?_
    exact LoggingSettings.accepted_iff_valid.mp (hready.logging _
      (lookup_overrides_of_ready (.inl rfl) hsurroundings
        hlookup))
  · refine hextraction.elim id fun hlookup => ?_
    exact ExtractionSettings.accepted_iff_valid.mp (hready.extraction _
      (lookup_overrides_of_ready (.inr rfl) hsurroundings
        hlookup))

/-- The second check of a load can be left out. -/
theorem load_eq_loadOnce (hready : HandsOverAccepted overrides) :
    s.load overrides = s.loadOnce overrides := by
  unfold load loadOnce
  cases hlayer : s.layer overrides with
  | error f => rfl
  | ok layer =>
      dsimp only [bind, Except.bind]
      split
      next => rfl
      next =>
        cases hcheck : layer.check s.homes with
        | homeless => rfl
        | failed issues => cases issues <;> rfl
        | passed settings =>
            obtain ⟨hlogging, hextraction⟩ :=
              valid_of_layer_check hready hlayer hcheck
            dsimp only
            rw [Settings.check_toValue s.homes hlogging hextraction]

/-- A load has settings that a check accepts, whatever is handed over. -/
theorem accepted_of_load (h : s.load overrides = .ok settings) :
    settings.Accepted := by
  obtain ⟨_, first, -, -, hagain⟩ := exists_of_load h
  exact ⟨s.homes, first.toValue, hagain⟩

end SettingsSources

-- ================================================================ workers

namespace Worker

variable {tools : Toolbox} {w : Worker}

/-- Takes up settings without a check and builds the registry. -/
def equipWith (tools : Toolbox) (settings : ExtractionSettings)
    (w : Worker) : Except WorkerFault Unit × Worker :=
  let built := buildRegistry tools settings
  let w := { w with
    settings := some settings
    session := w.session.logAll built.events }
  match built.result with
  | .error e => (.error (.registry e), w)
  | .ok r => (.ok (), { w with registry := some r })

/-- Starts a worker without any check of its settings. -/
def startWith (tools : Toolbox) (settings : ExtractionSettings)
    (logging : LoggingSettings) (id : Option String) (w : Worker) :
    Except WorkerFault Unit × Worker :=
  match w.session.configure logging with
  | (some e, s) => (.error (.destination e), { w with session := s })
  | (none, s) =>
    let s := match id with
      | some id =>
        { s with router := (s.router.setId (some id) tools.freshId).2 }
      | none => s
    equipWith tools settings { w with session := s }

/-- The checks of a worker can be left out. -/
theorem start_eq_startWith {settings : ExtractionSettings}
    {logging : LoggingSettings} (id : Option String)
    (hsettings : settings.Valid) (hlogging : logging.Valid) :
    start tools settings.toValue logging.toValue id w
      = startWith tools settings logging id w := by
  have hequip : ∀ w, equip tools settings.toValue w
      = equipWith tools settings w := by
    intro w
    rw [equip, ExtractionSettings.check_toValue hsettings]
    rfl
  rw [start, LoggingSettings.check_toValue tools.homes hlogging, startWith]
  dsimp only
  cases hconfigure : w.session.configure logging with
  | mk fault s =>
      cases fault with
      | some e => rfl
      | none => exact hequip _

end Worker

-- ================================================================== flags

/-- Flags change nothing that a check looks at, except for the number of
workers. -/
theorem ExtractRequest.settings_valid {q : ExtractRequest}
    {s : ExtractionSettings} (h : s.Valid)
    (hworkers : 1 ≤ (q.settings s).maxWorkers) : (q.settings s).Valid :=
  ⟨h.maxFileSizeMb, hworkers, h.fileTimeout⟩

theorem Invocation.settings_valid (i : Invocation) {s : Settings}
    (h : s.logging.Valid) : (i.settings s).logging.Valid := by
  unfold Invocation.settings
  split
  · exact h
  · exact h

-- ================================================================ identity

/-- Checking settings again is the identity. Sections and settings that a
check has made of anything are read back from their own document as they
are, wherever the home directories are then. A destination that was
accepted is a standard stream or an absolute path in normal form, and is
accepted again as it is; so are those of all outputs.

So no later check fails or changes a setting. A load comes to what one
check comes to, and to settings that a check accepts; a worker starts as if
it took up its settings unchecked; and so does one that has them from a
load by way of the flags of the program. -/
theorem recheck_identity :
    (∀ s : LoggingSettings, s.Accepted →
      (∀ homes, LoggingSettings.check homes s.toValue = passed s)
      ∧ ∀ o ∈ s.outputs, o.destination = "stderr" ∨ o.destination = "stdout"
        ∨ (LexicalPath.ofText o.destination).isAbsolute = true
          ∧ normalPath o.destination = o.destination)
    ∧ (∀ s : ExtractionSettings, s.Accepted →
      ExtractionSettings.check s.toValue = passed s)
    ∧ (∀ s : Settings, s.Accepted →
      ∀ homes, Settings.check homes s.toValue = passed s)
    ∧ (∀ homes v d, checkDestination homes v = passed d →
      (∀ homes, checkDestination homes (.text d) = passed d)
      ∧ (d = "stderr" ∨ d = "stdout"
        ∨ (LexicalPath.ofText d).isAbsolute = true ∧ normalPath d = d))
    ∧ (∀ (s : SettingsSources) overrides,
      (SettingsSources.HandsOverAccepted overrides →
        s.load overrides = s.loadOnce overrides)
      ∧ ∀ settings, s.load overrides = .ok settings → settings.Accepted)
    ∧ (∀ tools (s : ExtractionSettings) (l : LoggingSettings) id w,
      s.Accepted → l.Accepted →
        Worker.start tools s.toValue l.toValue id w
          = Worker.startWith tools s l id w)
    ∧ ∀ (s : Settings) (i : Invocation) (q : ExtractRequest) tools id w,
      s.Accepted → 1 ≤ (q.settings s.extraction).maxWorkers →
        Worker.start tools (q.settings s.extraction).toValue
            (i.settings s).logging.toValue id w
          = Worker.startWith tools (q.settings s.extraction)
            (i.settings s).logging id w := by
  refine ⟨fun s hs => ?_, fun s hs => ?_, fun s hs homes => ?_,
    fun homes v d hd => ?_, fun s overrides => ?_,
    fun tools s l id w hs hl => ?_, fun s i q tools id w hs hworkers => ?_⟩
  · have hvalid := LoggingSettings.accepted_iff_valid.mp hs
    exact ⟨fun homes => LoggingSettings.check_toValue homes hvalid,
      fun o ho => isDestination_iff.mp (hvalid o ho)⟩
  · exact ExtractionSettings.check_toValue
      (ExtractionSettings.accepted_iff_valid.mp hs)
  · obtain ⟨hlogging, hextraction⟩ := Settings.accepted_iff_valid.mp hs
    exact Settings.check_toValue homes hlogging hextraction
  · have hdestination := isDestination_of_check hd
    exact ⟨fun homes => checkDestination_text homes hdestination,
      isDestination_iff.mp hdestination⟩
  · exact ⟨SettingsSources.load_eq_loadOnce,
      fun settings => SettingsSources.accepted_of_load⟩
  · exact Worker.start_eq_startWith id
      (ExtractionSettings.accepted_iff_valid.mp hs)
      (LoggingSettings.accepted_iff_valid.mp hl)
  · obtain ⟨hlogging, hextraction⟩ := Settings.accepted_iff_valid.mp hs
    exact Worker.start_eq_startWith id
      (ExtractRequest.settings_valid hextraction hworkers)
      (i.settings_valid hlogging)

/-- Somebody whose home directory is known, and no documents. -/
def homeSources : SettingsSources where
  files := {}
  homes := { own := "/home/u/" }
  reader := Yaml.reader
  json := Json.reader
  userDocument := "/u"
  root := some "/r"

/-- An output below the home directory, and some workers. -/
def homeSettings : Settings :=
  { logging := { outputs := [{ destination := "/home/u/x.log" }] }
    extraction := { maxWorkers := 3 } }

/-- The output by way of a tilde, and the other section as it is. -/
def homeOverrides : List (String × Override) :=
  [("logging", .value (.object [("outputs",
      .list [.object [("destination", .text "~//x.log/.")]])])),
    ("extraction", .ready (.extraction homeSettings.extraction))]

/-- The tilde is replaced once, and nothing the second time, although
nobody has a home directory then. The finished section came of a text. -/
theorem recheck_identity_home :
    homeSources.load homeOverrides = .ok homeSettings
    ∧ Settings.check { accounts := [] } homeSettings.toValue
      = passed homeSettings
    ∧ ∀ tools id w, Worker.start tools homeSettings.extraction.toValue
        homeSettings.logging.toValue id w
      = Worker.startWith tools homeSettings.extraction homeSettings.logging
        id w := by
  obtain ⟨-, -, hcheck, -, hload, hstart, -⟩ := recheck_identity
  have hextraction : homeSettings.extraction.Accepted := by
    let document : Value := .object [("max_workers", .text " 3 ")]
    have htest : (match ExtractionSettings.check document with
      | .passed s => decide (s = homeSettings.extraction)
      | _ => false) = true := by decide +kernel
    refine ⟨document, ?_⟩
    split at htest
    next s hs => rw [hs, of_decide_eq_true htest]
    next => cases htest
  have hlogging : homeSettings.logging.Accepted :=
    ⟨homeSources.homes, .object [("outputs",
      .list [.object [("destination", .text "~//x.log/.")]])], by rfl⟩
  have hready : SettingsSources.HandsOverAccepted homeOverrides := by
    constructor
    · intro l hl
      cases hl
    · intro e he
      cases he
      exact hextraction
  obtain ⟨_, honce, rfl⟩ : ∃ s, homeSources.loadOnce homeOverrides = .ok s
      ∧ s = homeSettings :=
    exists_of_toOption_any (by decide +kernel)
  have hloaded := ((hload _ _).1 hready).trans honce
  exact ⟨hloaded, hcheck _ ((hload _ _).2 _ hloaded) _,
    fun tools id w => hstart tools _ _ id w hextraction hlogging⟩

/-- A section that was changed after its check. -/
def changedOverrides : List (String × Override) :=
  [("extraction", .ready (.extraction { maxWorkers := 0 }))]

/-- A finished section is handed over without a check, so the first check of
a load accepts what the second refuses. And a destination in normal form may
still go up by double dots. -/
theorem recheck_refuses_changed_section :
    (∃ layer first issues, homeSources.layer changedOverrides = .ok layer
      ∧ layer.check homeSources.homes = passed first
      ∧ Settings.check homeSources.homes first.toValue = .failed issues
      ∧ homeSources.load changedOverrides = .error (.changed issues))
    ∧ checkDestination homeSources.homes (.text "/a/../b")
      = passed "/a/../b" :=
  ⟨⟨_, _, _, rfl, rfl, rfl, rfl⟩, rfl⟩

end Outline
