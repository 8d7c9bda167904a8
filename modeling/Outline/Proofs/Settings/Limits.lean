/-
No work is begun without limits.

A limit on the size of a file and a number of workers may come from a
document, a variable, an override or a flag. Every one of them is compared
with its bound before it counts: the sources of a load by its checks, and
the flag by the command itself, which puts it over settings that have been
checked already. So the settings of a load are limited (`limited_of_load`),
and those that a command hands over to a batch are.

The latter is said of all commands at once: a command never finds out what
a batch does with other settings (`runCommandBy_eq_runCommand`). The command
is taken with the batch as a parameter for that.

A time limit is refused if it is at most zero, and that is a comparison, so
what is not a number is not refused. It is the only one that gets through
without being above zero (`positive_iff`), and it is never reached
(`Batch.deadlineOf`).
-/
import Outline.Proofs.Settings.Revalidation

namespace Outline

/-- A number that is not at most zero is above zero or not a number. -/
theorem Binary64.nonpositive_eq_false_iff {x : Binary64} :
    x.nonpositive = false ↔ x = .nan ∨ x.positive = true := by
  cases x with
  | nan => exact iff_of_true rfl (.inl rfl)
  | infinite negative => cases negative <;> simp [nonpositive, positive]
  | finite negative mantissa exponent =>
      cases negative <;> simp [nonpositive, positive]

-- ================================================================ limits

namespace ExtractionSettings

/-- There is room for a file and a worker, and a time limit is above
zero. -/
structure Positive (s : ExtractionSettings) : Prop where
  maxFileSizeMb : 1 ≤ s.maxFileSizeMb
  maxWorkers : 1 ≤ s.maxWorkers
  fileTimeout : ∀ x, s.fileTimeout = some x → x.positive = true

/-- There is room for a file and a worker, and a time limit is above zero
if it is a number. -/
structure Limited (s : ExtractionSettings) : Prop where
  maxFileSizeMb : 1 ≤ s.maxFileSizeMb
  maxWorkers : 1 ≤ s.maxWorkers
  fileTimeout : ∀ x, s.fileTimeout = some x → x = .nan ∨ x.positive = true

variable {s : ExtractionSettings}

/-- Limits are all that a check looks at. -/
theorem limited_iff_valid : s.Limited ↔ s.Valid := by
  constructor
  · intro h
    exact ⟨h.maxFileSizeMb, h.maxWorkers, fun x hx =>
      Binary64.nonpositive_eq_false_iff.mpr (h.fileTimeout x hx)⟩
  · intro h
    exact ⟨h.maxFileSizeMb, h.maxWorkers, fun x hx =>
      Binary64.nonpositive_eq_false_iff.mp (h.fileTimeout x hx)⟩

/-- Limits are above zero unless the time limit is not a number. -/
theorem Limited.positive_iff (h : s.Limited) :
    s.Positive ↔ s.fileTimeout ≠ some .nan := by
  constructor
  · intro hpositive hnan
    cases hpositive.fileTimeout _ hnan
  · intro hnumber
    refine ⟨h.maxFileSizeMb, h.maxWorkers, fun x hx => ?_⟩
    rcases h.fileTimeout x hx with rfl | hpositive
    · exact absurd hx hnumber
    · exact hpositive

end ExtractionSettings

open ExtractionSettings (Positive Limited)

/-- The settings of a load are limited, wherever they come from. -/
theorem SettingsSources.limited_of_load {s : SettingsSources}
    {overrides : List (String × Override)} {settings : Settings}
    (h : s.load overrides = .ok settings) : settings.extraction.Limited := by
  have hvalid := Settings.accepted_iff_valid.mp (accepted_of_load h)
  exact ExtractionSettings.limited_iff_valid.mpr hvalid.2

-- =============================================================== batches

/-- A way to outline many files: what is done with the tools and files of a
batch, a registry, the settings, the id of a request, paths, and the order
of things. -/
abbrev Batch.Runner :=
  Toolbox → FileSystem → Option Registry → ExtractionSettings →
    LoggingSettings → Option String → List String → Batch.Schedule →
    Logged (Except BatchFault (List FileResult))

/-- What is done with some settings is what batches do. -/
def Batch.Runner.AgreesOn (batch : Batch.Runner)
    (P : ExtractionSettings → Prop) : Prop :=
  ∀ tools files shared settings logging id paths schedule, P settings →
    batch tools files shared settings logging id paths schedule
      = Batch.extractFiles tools files shared settings logging id paths
        schedule

/-- Outlines the files of a request in some way. -/
def runExtractBy (batch : Batch.Runner) (w : World) (settings : Settings)
    (q : ExtractRequest) (s : Session) : Finish :=
  let extraction := q.settings settings.extraction
  if extraction.maxWorkers < 1 then
    .stopped w.program s (.usage (.command .extract) .tooFewWorkers)
  else
    let s := { s with router := (s.router.setId none w.freshId).2 }
    let built := Worker.buildRegistry w.tools extraction
    let s := s.logAll built.events
    match built.result with
    | .error e => .crashed s (.registry e)
    | .ok r =>
      match sourcesOfAll s.files r q.paths with
      | .error e => .crashed s (.os e)
      | .ok paths =>
        let s := s.log
          (extractStartEvent paths.length extraction.maxWorkers)
        let done := batch w.tools s.files (some r) extraction
          settings.logging s.router.requestId paths w.schedule
        let s := s.logAll done.events
        match done.result with
        | .error e => .crashed s (.batch e)
        | .ok results =>
          finishExtract w.print q.json extraction.resolveScopes results s

/-- Does the work of a command, and outlines files in some way. -/
def runCommandBy (batch : Batch.Runner) (w : World) (settings : Settings)
    (i : Invocation) (s : Session) : Finish :=
  match i.command with
  | .extract =>
    match ExtractRequest.read s.files i.words with
    | .error stop => .stopped w.program s stop
    | .ok q => runExtractBy batch w settings q s
  | .languages => runCommand w settings i s

-- ============================================================== commands

/-- Flags keep a condition on settings, if they leave a worker. -/
def KeptByFlags (P : ExtractionSettings → Prop) (s : ExtractionSettings) :
    Prop :=
  ∀ q : ExtractRequest, 1 ≤ (q.settings s).maxWorkers → P (q.settings s)

theorem keptByFlags_limited {s : ExtractionSettings} (h : s.Limited) :
    KeptByFlags Limited s :=
  fun _ hworkers => ⟨h.maxFileSizeMb, hworkers, h.fileTimeout⟩

theorem keptByFlags_positive {s : ExtractionSettings} (h : s.Positive) :
    KeptByFlags Positive s :=
  fun _ hworkers => ⟨h.maxFileSizeMb, hworkers, h.fileTimeout⟩

variable {batch : Batch.Runner} {P : ExtractionSettings → Prop} {w : World}
  {settings : Settings}

theorem runExtractBy_extractFiles (w : World) (settings : Settings)
    (q : ExtractRequest) (s : Session) :
    runExtractBy @Batch.extractFiles w settings q s
      = runExtract w settings q s := rfl

/-- A request is stopped before any file is outlined if its flags leave no
worker. -/
theorem runExtractBy_eq_runExtract (hbatch : batch.AgreesOn P)
    (hkept : KeptByFlags P settings.extraction) (q : ExtractRequest)
    (s : Session) :
    runExtractBy batch w settings q s = runExtract w settings q s := by
  rw [← runExtractBy_extractFiles]
  unfold runExtractBy
  dsimp only
  by_cases hworkers : (q.settings settings.extraction).maxWorkers < 1
  · rw [if_pos hworkers, if_pos hworkers]
  · have hrequest : P (q.settings settings.extraction) :=
      hkept q (Int.not_lt.mp hworkers)
    rw [if_neg hworkers, if_neg hworkers]
    cases (Worker.buildRegistry w.tools
      (q.settings settings.extraction)).result with
    | error e => rfl
    | ok r =>
        dsimp only
        cases sourcesOfAll (Session.logAll _ _).files r q.paths with
        | error e => rfl
        | ok paths =>
            dsimp only
            rw [hbatch _ _ _ _ _ _ _ _ hrequest]

/-- A command never finds out what is done with settings that do not keep
the condition. -/
theorem runCommandBy_eq_runCommand (hbatch : batch.AgreesOn P)
    (i : Invocation) (hkept : KeptByFlags P settings.extraction)
    (s : Session) :
    runCommandBy batch w (i.settings settings) i s
      = runCommand w (i.settings settings) i s := by
  have hsame : (i.settings settings).extraction = settings.extraction := by
    unfold Invocation.settings
    split <;> rfl
  rw [← hsame] at hkept
  unfold runCommandBy runCommand
  cases i.command with
  | languages => rfl
  | extract =>
      dsimp only
      cases ExtractRequest.read s.files i.words with
      | error stop => rfl
      | ok q => exact runExtractBy_eq_runExtract hbatch hkept q s

/-- The settings that a load comes to are limited, whatever the documents,
the variables and the overrides are, and all limits are above zero unless
the time limit is not a number. The same holds of the settings that a command
hands over to a batch, whatever its flags are: it does not depend on what is
done with others. -/
theorem load_and_command_keep_limits (s : SettingsSources)
    (overrides : List (String × Override)) (settings : Settings)
    (hload : s.load overrides = .ok settings) :
    settings.extraction.Limited
    ∧ (settings.extraction.Positive
        ↔ settings.extraction.fileTimeout ≠ some .nan)
    ∧ (∀ batch : Batch.Runner, batch.AgreesOn Limited → ∀ w i session,
      runCommandBy batch w (Invocation.settings i settings) i session
        = runCommand w (i.settings settings) i session)
    ∧ (settings.extraction.fileTimeout ≠ some .nan →
      ∀ batch : Batch.Runner, batch.AgreesOn Positive → ∀ w i session,
        runCommandBy batch w (Invocation.settings i settings) i session
          = runCommand w (i.settings settings) i session) := by
  have hlimited := SettingsSources.limited_of_load hload
  refine ⟨hlimited, hlimited.positive_iff, ?_, ?_⟩
  · intro batch hbatch w i session
    exact runCommandBy_eq_runCommand hbatch i (keptByFlags_limited hlimited)
      session
  · intro hnumber batch hbatch w i session
    have hpositive := hlimited.positive_iff.mpr hnumber
    exact runCommandBy_eq_runCommand hbatch i (keptByFlags_positive hpositive)
      session

/-- A directory whose time limit is not a number. -/
def untimedSources : SettingsSources where
  files :=
    { entries := [(["r", ".codestruct", "config.yaml"], .file
        "extraction:\n  file_timeout_sec: .nan\n".toUTF8.toList)] }
  reader := Yaml.reader
  json := Json.reader
  userDocument := "/u"
  root := some "/r"

/-- The settings of that directory. -/
def untimedSettings : Settings :=
  { extraction := { fileTimeout := some .nan } }

/-- Outlines files if there are workers. -/
def Batch.idleRunner : Batch.Runner :=
  fun tools files shared settings logging id paths schedule =>
    if settings.maxWorkers < 1 then .silent (.error .endless)
    else extractFiles tools files shared settings logging id paths schedule

theorem Batch.idleRunner_agreesOn : idleRunner.AgreesOn Limited := by
  intro tools files shared settings logging id paths schedule hlimited
  exact if_neg (Int.not_lt.mpr hlimited.maxWorkers)

/-- A time limit that is not a number is accepted, and never reached. All
other limits are kept, and a command does not depend on what is done without
a worker. With a half of a second instead, all limits are above zero. -/
theorem load_and_command_keep_limits_untimed :
    untimedSources.load [] = .ok untimedSettings
    ∧ ¬ untimedSettings.extraction.Positive
    ∧ Batch.deadlineOf untimedSettings.extraction.fileTimeout = .none
    ∧ (∀ w i session,
      runCommandBy Batch.idleRunner w (Invocation.settings i untimedSettings)
          i session
        = runCommand w (i.settings untimedSettings) i session)
    ∧ ∃ settings : Settings,
      untimedSources.load [("extraction", .value (.map
          [(.text "file_timeout_sec", .text "0.5")]))] = .ok settings
        ∧ settings.extraction.Positive := by
  obtain ⟨_, hload, rfl⟩ : ∃ settings, untimedSources.load [] = .ok settings
      ∧ settings = untimedSettings :=
    exists_of_toOption_any (by decide +kernel)
  obtain ⟨-, hpositive, hcommand, -⟩ :=
    load_and_command_keep_limits untimedSources [] untimedSettings hload
  refine ⟨hload, fun h => hpositive.mp h rfl, rfl,
    hcommand _ Batch.idleRunner_agreesOn, ?_⟩
  obtain ⟨settings, h, htimeout⟩ :
      ∃ settings, untimedSources.load [("extraction", .value (.map
          [(.text "file_timeout_sec", .text "0.5")]))] = .ok settings
        ∧ settings.extraction.fileTimeout ≠ some .nan :=
    exists_of_toOption_any (by decide +kernel)
  obtain ⟨-, hpositive, -⟩ := load_and_command_keep_limits _ _ settings h
  exact ⟨settings, h, hpositive.mpr htimeout⟩

end Outline
