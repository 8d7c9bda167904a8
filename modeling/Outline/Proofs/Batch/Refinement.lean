/-
Pools give the results of the plain loop.

Files are outlined one after the other in this process, or in pools of
workers in whatever order these come to an end. The second way is meant
to be nothing but a faster form of the first one. Three links make it so:

- a worker reads its settings from a document and builds a registry of
  its own, and both are those of this process (`startedWorker_eq`);
- so what a worker returns for a path is what the loop has for it
  (`ending_eq`);
- and a calm batch gives the ends of its jobs in the order of the paths
  (`pooled_of_calm`).

There is one gap. A wait that has to block fails if it is too long
(`Turn.overlong`), and then the pools have nothing where the loop has
results. Waits are too long for an infinite time limit, and for limits of
some centuries (`Deadline.Bearable.overlong_eq_false`).
-/
import Outline.Language.Catalog
import Outline.Proofs.Batch.Calm
import Outline.Proofs.Settings.Dump

namespace Outline

-- ================================================================ streams

/-- Whether lines for a destination leave the files as they are. -/
def Destination.isStream : Destination → Bool
  | .stdout => true
  | .stderr => true
  | .file _ => false

/-- A router without files among its sinks. -/
def Router.Streaming (router : Router) : Prop :=
  ∀ sink ∈ router.sinks, sink.destination.isStream = true

/-- What such a router delivers goes to streams. -/
theorem Router.Streaming.event {router : Router} (h : router.Streaming)
    (time : String) (e : Event) :
    ∀ d ∈ router.event time e, d.destination.isStream = true := by
  intro d hd
  unfold Router.event at hd
  split at hd
  next =>
    dsimp only at hd
    split at hd
    next =>
      unfold Router.unrouted at hd
      split at hd
      next =>
        rw [List.mem_singleton] at hd
        rw [hd]
        rfl
      next => cases hd
    next =>
      obtain ⟨sink, hsink, rfl⟩ := List.mem_map.mp hd
      exact h sink (List.mem_of_mem_filter hsink)
  next =>
    rw [List.mem_singleton] at hd
    rw [hd]
    rfl

namespace Session

/-- Lines for streams change neither files nor routing. -/
theorem carry_of_streams {deliveries : List Delivery}
    (h : ∀ d ∈ deliveries, d.destination.isStream = true) :
    ∀ s : Session, (s.carry deliveries).files = s.files
      ∧ (s.carry deliveries).router = s.router := by
  induction deliveries with
  | nil => exact fun s => ⟨rfl, rfl⟩
  | cons d rest ih =>
      intro s
      have hwrite : ∀ text, (s.write d.destination text).files = s.files
          ∧ (s.write d.destination text).router = s.router := by
        intro text
        have hd := h d (List.mem_cons_self ..)
        cases hdest : d.destination with
        | stdout => exact ⟨rfl, rfl⟩
        | stderr => exact ⟨rfl, rfl⟩
        | file p =>
            rw [hdest] at hd
            cases hd
      obtain ⟨hfiles, hrouter⟩ := ih
        (fun d hd => h d (List.mem_cons_of_mem _ hd))
        (s.write d.destination (d.line ++ "\n"))
      exact ⟨hfiles.trans (hwrite _).1, hrouter.trans (hwrite _).2⟩

/-- Events that go to streams leave the files as they are. -/
theorem logAll_files {events : List Event} :
    ∀ {s : Session}, s.router.Streaming →
      (s.logAll events).files = s.files := by
  induction events with
  | nil => exact fun _ => rfl
  | cons e rest ih =>
      intro s h
      obtain ⟨hfiles, hrouter⟩ := carry_of_streams (h.event s.clock e) s
      have := ih (s := s.log e) (by unfold log; rw [hrouter]; exact h)
      exact this.trans hfiles

end Session

-- ================================================================ workers

namespace Batch

variable {tools : Toolbox} {files : FileSystem} {settings : ExtractionSettings}
  {r : Registry}

/-- A worker that logs to the error stream starts with the settings and
the registry of this process, and with the same files. -/
theorem startedWorker_eq (files : FileSystem) (hvalid : settings.Valid)
    (hregistry : (Worker.buildRegistry tools settings).result = .ok r)
    (level : Severity) (id : Option String) :
    ∃ w, startedWorker tools files settings { level } id = (.ok (), w)
      ∧ w.registry = some r ∧ w.settings = some settings
      ∧ w.session.files = files := by
  -- with or without an id, one sink is open and it is the error stream
  have hequip : ∀ router : Router, router.Streaming →
      ∃ w, Worker.equip tools settings.toValue { session := { files, router } }
          = (.ok (), w)
        ∧ w.registry = some r ∧ w.settings = some settings
        ∧ w.session.files = files := by
    intro router hrouter
    unfold Worker.equip
    rw [ExtractionSettings.check_toValue hvalid]
    dsimp only
    rw [hregistry]
    exact ⟨_, rfl, rfl, rfl, Session.logAll_files hrouter⟩
  have hsink : ∀ sink ∈ [(⟨.console, .stderr, level.number⟩ : Sink)],
      sink.destination.isStream = true := by
    intro sink hsink
    rw [List.mem_singleton.mp hsink]
    rfl
  unfold startedWorker Worker.start
  rw [LoggingSettings.check_toValue_default]
  cases id with
  | none => exact hequip _ hsink
  | some id => exact hequip _ hsink

/-- What such a worker does with a job is what this process does with
the path of it. -/
theorem ending_eq {w : Worker} (hregistry : w.registry = some r)
    (hsettings : w.settings = some settings) (job : Job) :
    ending tools (.ok (), w) job =
      match w.session.files.access job.path with
      | .unnameable => some (.raised nullInPath)
      | .endless => none
      | .state s => some (.returned
          (r.extractFile tools.engine settings job.path s).result) := by
  simp only [ending, Worker.extract, hregistry, hsettings]
  cases w.session.files.access job.path <;> rfl

-- =================================================================== loop

/-- What the loop has for a path. -/
def Outlines (tools : Toolbox) (files : FileSystem) (r : Registry)
    (settings : ExtractionSettings) (path : String) (result : FileResult) :
    Prop :=
  ∃ s, files.access path = .state s
    ∧ result = (r.extractFile tools.engine settings path s).result

/-- A call that returns returns what the loop has for the path. -/
theorem outlines_of_returned {w : Worker} {job : Job} {result : FileResult}
    (hregistry : w.registry = some r) (hsettings : w.settings = some settings)
    (h : ending tools (.ok (), w) job = some (.returned result)) :
    Outlines tools w.session.files r settings job.path result := by
  rw [ending_eq hregistry hsettings] at h
  split at h
  next => cases h
  next => cases h
  next s haccess =>
    cases h
    exact ⟨s, haccess, rfl⟩

/-- The loop gives the results of its paths in order. -/
theorem inOrder_result {paths : List String} {results : List FileResult}
    (h : List.Forall₂ (Outlines tools files r settings) paths results) :
    (inOrder tools files r settings paths).result = .ok results := by
  induction h with
  | nil => rfl
  | @cons path result paths results hfirst hrest ih =>
      obtain ⟨s, haccess, rfl⟩ := hfirst
      rw [inOrder, haccess]
      simp only [Logged.andThen, Logged.map, ih]

/-- A loop with a registry of its own does what the loop does with it. -/
theorem sequential_result (paths : List String)
    (hregistry : (Worker.buildRegistry tools settings).result = .ok r) :
    (sequential tools files none settings paths).result
      = (inOrder tools files r settings paths).result := by
  simp only [sequential, Logged.andThen, hregistry]

-- ================================================================== waits

end Batch

/-- Whether every wait can be asked for that begins when its flights have
begun. -/
def Deadline.Bearable : Deadline → Prop
  | .none => True
  | .ticks limit => limit < Deadline.tooLong
  | .infinite => False

theorem Turn.overlong_none (t : Turn) : t.overlong .none = false := by
  cases hasked : t.round.asked <;> simp [overlong, hasked]

/-- A wait that does not block is none too long. -/
theorem Turn.overlong_of_asked_eq_none {t : Turn} (deadline : Deadline)
    (h : t.round.asked = none) : t.overlong deadline = false := by
  simp [overlong, h]

/-- A wait that begins when its flights have begun is no longer than the
limit. -/
theorem Deadline.Bearable.overlong_eq_false {deadline : Deadline}
    (h : deadline.Bearable) {t : Turn}
    (hbegun : ∀ asked ∈ t.round.asked, t.oldest ≤ asked) :
    t.overlong deadline = false := by
  cases hasked : t.round.asked with
  | none => exact t.overlong_of_asked_eq_none _ hasked
  | some asked =>
      cases deadline with
      | none => exact t.overlong_none
      | infinite => exact h.elim
      | ticks limit =>
          have hlimit : limit < Deadline.tooLong := h
          have hwait : t.waitTime limit asked ≤ limit := by
            have := hbegun asked hasked
            rw [Turn.waitTime]
            omega
          simp only [Turn.overlong, hasked, Bool.and_eq_false_iff,
            decide_eq_false_iff_not]
          exact .inr (by omega)

namespace Batch

variable {tools : Toolbox} {files : FileSystem} {settings : ExtractionSettings}
  {r : Registry}

/-- A batch with a wait that is too long fails at the first one. -/
theorem parallel_of_overlong {logging : LoggingSettings} {id : Option String}
    {paths : List String} {schedule : Schedule}
    (h : ∃ t ∈ turns settings
        (roundsOf tools files settings logging id paths schedule) paths,
      t.overlong (deadlineOf settings.fileTimeout) = true) :
    (parallel tools files settings logging id paths schedule).result
      = .error .waitTooLong := by
  obtain ⟨t, hfind⟩ := Option.isSome_iff_exists.mp (List.find?_isSome.mpr h)
  simp only [parallel, overlongTurn?, hfind, Option.map_some]

/-- A batch without one does what its pools do. -/
theorem parallel_of_not_overlong {logging : LoggingSettings}
    {id : Option String} {paths : List String} {schedule : Schedule}
    {done : Logged (List FileResult)}
    (h : ∀ t ∈ turns settings
        (roundsOf tools files settings logging id paths schedule) paths,
      t.overlong (deadlineOf settings.fileTimeout) = false)
    (hdone : pooled settings (deadlineOf settings.fileTimeout).limit?
      (roundsOf tools files settings logging id paths schedule) paths
        = some done) :
    parallel tools files settings logging id paths schedule
      = done.map .ok := by
  have hfind : (turns settings
      (roundsOf tools files settings logging id paths schedule) paths).find?
        (Turn.overlong (deadlineOf settings.fileTimeout)) = none := by
    rw [List.find?_eq_none]
    exact fun t ht => Bool.eq_false_iff.mp (h t ht)
  simp only [parallel, overlongTurn?, hfind, Option.map_none, hdone]

-- =================================================================== both

/-- How jobs end with workers that log to the error stream. -/
def workerEnding (tools : Toolbox) (files : FileSystem)
    (settings : ExtractionSettings) (level : Severity) (id : Option String) :
    Job → Option Ending :=
  ending tools (startedWorker tools files settings { level } id)

/-- The pools of a calm batch give the results of the loop. -/
theorem pooled_outlines {level : Severity} {id : Option String}
    {paths : List String} {limit : Option Nat} {rounds : List Round}
    (hvalid : settings.Valid)
    (hregistry : (Worker.buildRegistry tools settings).result = .ok r)
    (hpaths : paths ≠ [])
    (hcalm : Calm (workersFor settings paths.length) limit
      (workerEnding tools files settings level id) (Job.ofPaths paths) rounds)
    (hraised : ∀ job ∈ Job.ofPaths paths, ∀ reason,
      workerEnding tools files settings level id job
        ≠ some (.raised reason)) :
    ∃ done, pooled settings limit rounds paths = some done
      ∧ List.Forall₂ (Outlines tools files r settings) paths done.result := by
  have hworkers : 0 < workersFor settings paths.length := by
    have := hvalid.maxWorkers
    have := List.length_pos_iff.mpr hpaths
    unfold workersFor
    omega
  obtain ⟨done, hdone, hlength, hends⟩ := pooled_of_calm hcalm hworkers
  refine ⟨done, hdone, List.forall₂_iff_get.mpr ⟨hlength.symm, ?_⟩⟩
  intro i hi hi'
  obtain ⟨w, hw, hwr, hws, rfl⟩ :=
    startedWorker_eq files hvalid hregistry level id
  have hget : paths[i]? = some (paths.get ⟨i, hi⟩) :=
    List.getElem?_eq_getElem hi
  obtain ⟨x, hx, hresult⟩ := hends i _ hget
  have hjob : (⟨i, paths.get ⟨i, hi⟩⟩ : Job) ∈ Job.ofPaths paths :=
    Job.mem_ofPaths.mpr hget
  cases x with
  | raised reason => exact absurd hx (hraised _ hjob reason)
  | returned result =>
      rw [List.getElem?_eq_getElem hi', Option.some_inj] at hresult
      rw [workerEnding, hw] at hx
      rw [show done.result.get ⟨i, hi'⟩ = result from hresult]
      exact outlines_of_returned hwr hws hx

/-- With two workers and two files or more, and if nothing goes wrong, the
loop has results, and a batch in pools has the same, whatever the order in
which its files are done; unless one of its waits has to block and is too
long, and then it fails. None is too long for a time limit of less than
`Deadline.tooLong`, as long as waits begin when their flights have
begun. -/
theorem extractFiles_refines_sequential {shared : Option Registry}
    {level : Severity} {id : Option String} {paths : List String}
    {schedule : Schedule}
    (hvalid : ∃ document, ExtractionSettings.check document = .passed settings)
    (hworkers : 2 ≤ settings.maxWorkers) (hpaths : 2 ≤ paths.length)
    (hregistry : (Worker.buildRegistry tools settings).result = .ok r)
    (hcalm : Calm (workersFor settings paths.length)
      (deadlineOf settings.fileTimeout).limit?
      (workerEnding tools files settings level id) (Job.ofPaths paths)
      (roundsOf tools files settings { level } id paths schedule))
    (hraised : ∀ job ∈ Job.ofPaths paths, ∀ reason,
      workerEnding tools files settings level id job
        ≠ some (.raised reason)) :
    ∃ results,
      (sequential tools files none settings paths).result = .ok results
      ∧ ((∀ t ∈ turns settings
            (roundsOf tools files settings { level } id paths schedule) paths,
          t.overlong (deadlineOf settings.fileTimeout) = false) →
        (extractFiles tools files shared settings { level } id paths
          schedule).result = .ok results)
      ∧ ((∃ t ∈ turns settings
            (roundsOf tools files settings { level } id paths schedule) paths,
          t.overlong (deadlineOf settings.fileTimeout) = true) →
        (extractFiles tools files shared settings { level } id paths
          schedule).result = .error .waitTooLong)
      ∧ ((deadlineOf settings.fileTimeout).Bearable →
        ∀ t ∈ turns settings
            (roundsOf tools files settings { level } id paths schedule) paths,
          (∀ asked ∈ t.round.asked, t.oldest ≤ asked) →
          t.overlong (deadlineOf settings.fileTimeout) = false) := by
  have hne : paths ≠ [] := by
    rintro rfl
    cases hpaths
  have hpools : extractFiles tools files shared settings { level } id paths
      schedule = parallel tools files settings { level } id paths schedule := by
    have h₁ : paths.isEmpty = false := List.isEmpty_eq_false_iff.mpr hne
    have h₂ : inPools settings paths = true := by
      simp only [inPools, Bool.and_eq_true, decide_eq_true_eq]
      omega
    simp only [extractFiles, h₁, h₂, Bool.false_eq_true, if_false, if_true]
  obtain ⟨document, hdocument⟩ := hvalid
  obtain ⟨done, hdone, houtlines⟩ := pooled_outlines
    (ExtractionSettings.valid_of_check hdocument) hregistry hne hcalm hraised
  rw [hpools, sequential_result paths hregistry]
  refine ⟨done.result, inOrder_result houtlines, fun hshort => ?_,
    parallel_of_overlong, fun hbearable t _ hbegun =>
      hbearable.overlong_eq_false hbegun⟩
  rw [parallel_of_not_overlong hshort hdone]
  rfl

/-- Quick workers have to be waited for, so with a limit that is never over
their batch has a wait that is too long. -/
theorem exists_overlong_quickRounds {ending : Job → Option Ending}
    {workers count jobs : Nat} {j : Job} {queue : List Job}
    (hworkers : 0 < workers) :
    ∃ t ∈ Pool.turnsAll workers none (count + 1) (j :: queue)
        (quickRounds ending none (jobs + 1)),
      t.overlong .infinite = true := by
  have hprompt : ∀ r ∈ quickRounds ending none (jobs + 1), r.Prompt ending :=
    fun _ => prompt_of_mem_quickRounds
  rw [quickRounds] at hprompt ⊢
  dsimp only at hprompt ⊢
  rw [List.replicate_succ] at hprompt ⊢
  have hwaits := Turn.waiting_pending_ne_nil
    (t := ⟨.fresh workers (j :: queue), _⟩)
    (hprompt _ List.mem_cons_self) rfl hworkers
  rw [Pool.turnsAll, Pool.turns_next rfl hwaits]
  refine ⟨_, List.mem_append_left _ List.mem_cons_self, ?_⟩
  simpa [Turn.overlong] using hwaits

/-- The built-in languages, and no parser. -/
def bareTools : Toolbox :=
  { grammars := .installed
    packs := LanguagePack.builtIn
    engine := { parse := fun _ _ => none }
    homes := {}
    freshId := "0" }

/-- Two workers for files in Go, with a time limit. -/
def pairSettings (timeout : Option Binary64) : ExtractionSettings :=
  { languages := some ["go"]
    maxWorkers := 2
    fileTimeout := timeout }

theorem pairSettings_valid {timeout : Option Binary64}
    (h : ∀ x, timeout = some x → x.nonpositive = false) :
    (pairSettings timeout).Valid :=
  ⟨(by decide : (1 : Int) ≤ 10), (by decide : (1 : Int) ≤ 2), h⟩

theorem exists_pairRegistry (timeout : Option Binary64) :
    ∃ r, (Worker.buildRegistry bareTools (pairSettings timeout)).result
      = .ok r := by
  have hok : (Worker.buildRegistry bareTools
      (pairSettings none)).result.isOk = true := by decide +kernel
  change ∃ r, (Worker.buildRegistry bareTools (pairSettings none)).result
    = .ok r
  cases h : (Worker.buildRegistry bareTools (pairSettings none)).result with
  | ok r => exact ⟨r, rfl⟩
  | error e =>
      rw [h] at hok
      cases hok

/-- Two files that are not there: every call of a worker returns. -/
theorem exists_returned_of_missing {timeout : Option Binary64}
    (h : ∀ x, timeout = some x → x.nonpositive = false) :
    ∀ job ∈ Job.ofPaths ["a.go", "b.go"], ∃ result,
      workerEnding bareTools {} (pairSettings timeout) .info none job
        = some (.returned result) := by
  intro job hjob
  obtain ⟨r, hr⟩ := exists_pairRegistry timeout
  obtain ⟨w, hw, hwr, hws, hfiles⟩ :=
    startedWorker_eq {} (pairSettings_valid h) hr .info none
  have haccess : ∃ s, FileSystem.access {} job.path = .state s := by
    simp only [Job.ofPaths, List.mapIdx_cons, List.mapIdx_nil, List.mem_cons,
      List.not_mem_nil, or_false] at hjob
    rcases hjob with rfl | rfl
    · exact ⟨_, rfl⟩
    · exact ⟨_, rfl⟩
  obtain ⟨s, hs⟩ := haccess
  rw [workerEnding, hw, ending_eq hwr hws, hfiles, hs]
  exact ⟨_, rfl⟩

/-- The rounds of quick workers, each done when somebody looks. -/
def promptRounds : Schedule := fun ending limit jobs =>
  (quickRounds ending limit jobs).map ({ · with asked := none })

theorem calm_promptRounds {workers : Nat} {ending : Job → Option Ending}
    {queue : List Job} (limit : Option Nat)
    (hends : ∀ j ∈ queue, (ending j).isSome) (hworkers : 0 < workers) :
    Calm workers limit ending queue
      (promptRounds ending limit queue.length) := by
  refine .of_prompt limit ?_ hends hworkers ?_
  · intro r hr
    obtain ⟨quick, hquick, rfl⟩ := List.mem_map.mp hr
    have hprompt := prompt_of_mem_quickRounds hquick
    exact ⟨hprompt.accepted, hprompt.ended⟩
  · rw [promptRounds, List.length_map]
    exact le_length_quickRounds

theorem asked_of_mem_promptRounds {ending : Job → Option Ending}
    {limit : Option Nat} {jobs : Nat} {r : Round}
    (hr : r ∈ promptRounds ending limit jobs) : r.asked = none := by
  obtain ⟨quick, -, rfl⟩ := List.mem_map.mp hr
  rfl

/-- Two files that are not there: the loop and the pools agree without a
time limit. With one that is never over the pools fail, unless they never
have to wait. -/
theorem extractFiles_refines_sequential_missing :
    (∃ results,
      (sequential bareTools {} none (pairSettings none)
        ["a.go", "b.go"]).result = .ok results
      ∧ (extractFiles bareTools {} none (pairSettings none) {} none
        ["a.go", "b.go"]).result = .ok results)
    ∧ ∃ results,
      (sequential bareTools {} none (pairSettings (some (.infinite false)))
        ["a.go", "b.go"]).result = .ok results
      ∧ (extractFiles bareTools {} none (pairSettings (some (.infinite false)))
          {} none ["a.go", "b.go"]).result = .error .waitTooLong
      ∧ (extractFiles bareTools {} none (pairSettings (some (.infinite false)))
          {} none ["a.go", "b.go"] promptRounds).result = .ok results := by
  have hcases : ∀ timeout : Option Binary64,
      (∀ x, timeout = some x → x.nonpositive = false) →
      ∀ schedule ∈ [quickRounds, promptRounds], ∃ results,
        (sequential bareTools {} none (pairSettings timeout)
          ["a.go", "b.go"]).result = .ok results
        ∧ ((∀ t ∈ turns (pairSettings timeout) (roundsOf bareTools {}
              (pairSettings timeout) {} none ["a.go", "b.go"] schedule)
              ["a.go", "b.go"],
            t.overlong (deadlineOf timeout) = false) →
          (extractFiles bareTools {} none (pairSettings timeout) {} none
            ["a.go", "b.go"] schedule).result = .ok results)
        ∧ ((∃ t ∈ turns (pairSettings timeout) (roundsOf bareTools {}
              (pairSettings timeout) {} none ["a.go", "b.go"] schedule)
              ["a.go", "b.go"],
            t.overlong (deadlineOf timeout) = true) →
          (extractFiles bareTools {} none (pairSettings timeout) {} none
            ["a.go", "b.go"] schedule).result = .error .waitTooLong) := by
    intro timeout hpositive schedule hschedule
    obtain ⟨r, hr⟩ := exists_pairRegistry timeout
    have hreturned := exists_returned_of_missing hpositive
    have hends : ∀ job ∈ Job.ofPaths ["a.go", "b.go"], (workerEnding bareTools
        {} (pairSettings timeout) .info none job).isSome = true := by
      intro job hjob
      obtain ⟨result, hresult⟩ := hreturned job hjob
      rw [hresult]
      rfl
    have hcalm : Calm 2 (deadlineOf timeout).limit? (workerEnding bareTools {}
        (pairSettings timeout) .info none) (Job.ofPaths ["a.go", "b.go"])
        (roundsOf bareTools {} (pairSettings timeout) {} none
          ["a.go", "b.go"] schedule) := by
      rcases List.mem_cons.mp hschedule with rfl | hschedule
      · exact calm_quickRounds _ hends (Nat.succ_pos 1)
      · rw [List.mem_singleton.mp hschedule]
        exact calm_promptRounds _ hends (Nat.succ_pos 1)
    obtain ⟨results, hloop, hshort, hlong, -⟩ :=
      @extractFiles_refines_sequential bareTools {} (pairSettings timeout) r
        none .info none ["a.go", "b.go"] schedule
        ⟨_, ExtractionSettings.check_toValue (pairSettings_valid hpositive)⟩
        (Int.le_refl 2) (Nat.le_refl 2) hr hcalm fun job hjob reason hraised =>
          by
            obtain ⟨result, hresult⟩ := hreturned job hjob
            rw [hresult] at hraised
            cases hraised
    exact ⟨results, hloop, hshort, hlong⟩
  have hinfinite : ∀ x, some (Binary64.infinite false) = some x →
      x.nonpositive = false := by
    intro x hx
    cases hx
    rfl
  obtain ⟨results, hloop, hpools, -⟩ := hcases none nofun quickRounds (by simp)
  obtain ⟨results₁, hloop₁, -, hfails⟩ :=
    hcases _ hinfinite quickRounds (by simp)
  obtain ⟨results₂, hloop₂, hprompt, -⟩ :=
    hcases _ hinfinite promptRounds (by simp)
  cases hloop₁.symm.trans hloop₂
  refine ⟨⟨results, hloop, hpools fun t _ => ?_⟩, results₁, hloop₁,
    hfails (exists_overlong_quickRounds (Nat.succ_pos 1)),
    hprompt fun t ht => ?_⟩
  · exact t.overlong_none
  · exact Turn.overlong_of_asked_eq_none _
      (asked_of_mem_promptRounds (Pool.round_mem_of_mem_turnsAll ht))

end Batch

end Outline
