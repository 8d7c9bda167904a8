/-
A run of `extract` reports every source.

Which files a language claims is decided twice: when a directory is
searched, and when a file is outlined, by then perhaps by another process
with a registry of its own and from another text of the path. Both go by
the extension, and that is the same for a path and its normal form; a
worker reads its settings back as they were, so it builds the same
registry. Hence no file is ever searched out and then turned down
(`Answers`).

The rest is bookkeeping. The plain loop and calm pools both have one
result for each source, in order (`Batch.inOrder_answers`,
`Batch.parallel_answers`), and the status counts the results that are
reports. Before and after that the run depends on others: the system may
refuse to say what there is (`Obstructs`), and a printer may fail to print
what is shown (`Presentable`), because names and paths go into marked-up
text as they are. Either ends the run.
-/
import Mathlib.Data.List.Infix
import Outline.Layout.Console
import Outline.Proofs.Batch.Refinement
import Outline.Proofs.Files.Access
import Outline.Settings.Reader

namespace Outline

-- ================================================================ results

/-- A result for a path, which does not say that no language claims a
path that one does claim. -/
structure Answers (r : Registry) (path : String) (result : FileResult) :
    Prop where
  path_eq : result.path = path
  claimed : r.supports path = true → ∀ report,
    result.report? = some report → report.code ≠ .unsupportedLanguage

/-- A file that nothing could be done about is not turned down. -/
theorem Answers.unexpected (r : Registry) (path reason : String) :
    Answers r path (.unexpected path reason) := by
  refine ⟨rfl, fun _ report hreport => ?_⟩
  cases hreport
  exact nofun

/-- A registry outlines what it supports: the extension of a path is that
of its normal form. -/
theorem Registry.forPath_of_supports {r : Registry} {path : String}
    (h : r.supports path = true) :
    ∃ l, r.forPath (normalPath path) = .ok l := by
  unfold supports at h
  obtain ⟨l, hl⟩ := Option.isSome_iff_exists.mp h
  rw [forPath, extensionOf_normalPath, hl]
  exact ⟨l, rfl⟩

theorem Registry.extractFile_answers (r : Registry) (engine : Engine)
    (settings : ExtractionSettings) (path : String) (state : FileState) :
    Answers r path (r.extractFile engine settings path state).result := by
  unfold extractFile
  split
  next e _ => exact .unexpected r path e.message
  next size _ =>
    split
    next =>
      refine ⟨rfl, fun _ report hreport => ?_⟩
      cases hreport
      exact nofun
    next =>
      split
      next e _ => exact .unexpected r path e.message
      next bytes _ =>
        refine ⟨rfl, fun hsupports report hreport => ?_⟩
        obtain ⟨l, hl⟩ := forPath_of_supports hsupports
        rw [outline, hl] at hreport
        dsimp only [Language.outline] at hreport
        split at hreport
        next =>
          cases hreport
          exact nofun
        next => cases hreport

namespace Batch

variable {tools : Toolbox} {files : FileSystem} {settings : ExtractionSettings}
  {logging : LoggingSettings} {id : Option String} {r : Registry}
  {paths : List String}

-- ============================================================= in process

/-- The loop answers every path that can be read to its end. -/
theorem inOrder_answers (h : ∀ path ∈ paths, ∃ s, files.access path = .state s) :
    ∃ results, (inOrder tools files r settings paths).result = .ok results
      ∧ List.Forall₂ (Answers r) paths results := by
  induction paths with
  | nil => exact ⟨[], rfl, .nil⟩
  | cons path rest ih =>
      obtain ⟨⟨s, hs⟩, hrest⟩ := List.forall_mem_cons.mp h
      obtain ⟨results, hresults, hanswers⟩ := ih hrest
      refine ⟨(r.extractFile tools.engine settings path s).result :: results,
        ?_, .cons (r.extractFile_answers _ _ _ _) hanswers⟩
      rw [inOrder, hs]
      simp only [Logged.andThen, Logged.map, hresults]

/-- A pipe among the paths is read for ever. -/
theorem inOrder_endless
    (h : ∀ path ∈ paths, (∃ s, files.access path = .state s)
      ∨ files.access path = .endless)
    (hpipe : ∃ path ∈ paths, files.access path = .endless) :
    (inOrder tools files r settings paths).result = .error .endless := by
  induction paths with
  | nil =>
      obtain ⟨path, hpath, -⟩ := hpipe
      cases hpath
  | cons path rest ih =>
      obtain ⟨hpath, hrest⟩ := List.forall_mem_cons.mp h
      rw [inOrder]
      rcases hpath with ⟨s, hs⟩ | hpath
      · -- this one is not the pipe, so the pipe is further on
        have hmore : ∃ path ∈ rest, files.access path = .endless := by
          obtain ⟨other, hother, hendless⟩ := hpipe
          rcases List.mem_cons.mp hother with rfl | hother
          · cases hs.symm.trans hendless
          · exact ⟨other, hother, hendless⟩
        rw [hs]
        simp only [Logged.andThen, Logged.map, ih hrest hmore]
      · rw [hpath]
        rfl

-- =============================================================== in pools

/-- A worker that has started has the registry of this process. -/
theorem registry_of_started {w : Worker} (hvalid : settings.Valid)
    (hregistry : (Worker.buildRegistry tools settings).result = .ok r)
    (h : startedWorker tools files settings logging id = (.ok (), w)) :
    w.registry = some r := by
  unfold startedWorker Worker.start at h
  split at h
  next => cases h
  next => cases h
  next =>
    split at h
    next => cases h
    next =>
      rw [Worker.equip, ExtractionSettings.check_toValue hvalid] at h
      dsimp only at h
      rw [hregistry] at h
      cases h
      rfl

/-- What is written down of a job answers its path. -/
theorem entry_answers {job : Job} {x : Ending} (timeout : Value)
    (hvalid : settings.Valid)
    (hregistry : (Worker.buildRegistry tools settings).result = .ok r)
    (h : ending tools (startedWorker tools files settings logging id) job
      = some x) :
    Answers r job.path (Entry.result timeout ⟨job, x.outcome⟩) := by
  cases x with
  | raised reason => exact .unexpected r job.path reason
  | returned result =>
      -- only a worker that has started returns, and it has this registry
      change Answers r job.path result
      unfold ending at h
      split at h
      next => cases h
      next w hstarted =>
        split at h
        next done hdone =>
          cases h
          rw [Worker.extract, registry_of_started hvalid hregistry hstarted]
            at hdone
          split at hdone
          next hr _ =>
            cases hr
            split at hdone
            next => cases hdone
            next => cases hdone
            next =>
              cases hdone
              exact r.extractFile_answers _ _ _ _
          next => cases hdone
        next => cases h
        next => cases h
        next => cases h

/-- The pools of a calm batch answer every path. -/
theorem pooled_answers {limit : Option Nat} {rounds : List Round}
    (hvalid : settings.Valid)
    (hregistry : (Worker.buildRegistry tools settings).result = .ok r)
    (hpaths : paths ≠ [])
    (hcalm : Calm (workersFor settings paths.length) limit
      (ending tools (startedWorker tools files settings logging id))
      (Job.ofPaths paths) rounds) :
    ∃ done, pooled settings limit rounds paths = some done
      ∧ List.Forall₂ (Answers r) paths done.result := by
  have hworkers : 0 < workersFor settings paths.length := by
    have := hvalid.maxWorkers
    have := List.length_pos_iff.mpr hpaths
    unfold workersFor
    omega
  obtain ⟨done, hdone, hlength, hends⟩ := pooled_of_calm hcalm hworkers
  refine ⟨done, hdone, List.forall₂_iff_get.mpr ⟨hlength.symm, ?_⟩⟩
  intro i hi hi'
  obtain ⟨x, hx, hresult⟩ := hends i _ (List.getElem?_eq_getElem hi)
  rw [List.getElem?_eq_getElem hi', Option.some_inj] at hresult
  have hanswers := entry_answers
    (.ofOption (settings.fileTimeout.map .float)) hvalid hregistry hx
  rw [← hresult] at hanswers
  exact hanswers

-- =================================================================== both

/-- Why paths have no results at all: one of those that were named is a
pipe, which the loop would have to read to its end, or the pools come to
a wait that is too long. -/
inductive Hindered (files : FileSystem) (settings : ExtractionSettings)
    (named paths : List String) (rounds : List Round) : BatchFault → Prop where
  | pipe {path : String} : inPools settings paths = false →
      path ∈ named → files.access path = .endless →
      Hindered files settings named paths rounds .endless
  | wait {t : Turn} : inPools settings paths = true →
      t ∈ turns settings rounds paths →
      t.overlong (deadlineOf settings.fileTimeout) = true →
      Hindered files settings named paths rounds .waitTooLong

/-- Pools that do their work in whatever order, but with no time running
out and with nothing refused. -/
def CalmPools (tools : Toolbox) (files : FileSystem)
    (settings : ExtractionSettings) (logging : LoggingSettings)
    (id : Option String) (paths : List String) (schedule : Schedule) : Prop :=
  inPools settings paths = true →
    Calm (workersFor settings paths.length)
      (deadlineOf settings.fileTimeout).limit?
      (ending tools (startedWorker tools files settings logging id))
      (Job.ofPaths paths)
      (roundsOf tools files settings logging id paths schedule)

/-- A batch whose paths are files or pipes answers all of them, unless
something hinders it. -/
theorem extractFiles_answers {schedule : Schedule} (hvalid : settings.Valid)
    (hregistry : (Worker.buildRegistry tools settings).result = .ok r)
    (hpaths : ∀ path ∈ paths, (∃ s, files.access path = .state s)
      ∨ files.access path = .endless)
    (hcalm : CalmPools tools files settings logging id paths schedule) :
    (∀ e, Hindered files settings paths paths
        (roundsOf tools files settings logging id paths schedule) e →
      (extractFiles tools files (some r) settings logging id paths
        schedule).result = .error e)
    ∧ ((∀ e, ¬Hindered files settings paths paths
        (roundsOf tools files settings logging id paths schedule) e) →
      ∃ results,
      (extractFiles tools files (some r) settings logging id paths
        schedule).result = .ok results
      ∧ List.Forall₂ (Answers r) paths results) := by
  unfold extractFiles
  by_cases hnil : paths = []
  · subst hnil
    refine ⟨fun e h => ?_, fun _ => ⟨[], rfl, .nil⟩⟩
    cases h with
    | pipe _ hpath => cases hpath
    | wait hpools => simp [inPools] at hpools
  rw [if_neg (by simpa using hnil)]
  cases hpools : inPools settings paths with
  | false =>
      rw [if_neg Bool.false_ne_true, sequential]
      refine ⟨fun e h => ?_, fun hfree => ?_⟩
      · cases h with
        | pipe _ hpath hendless =>
            exact inOrder_endless hpaths ⟨_, hpath, hendless⟩
        | wait hwait => cases hpools.symm.trans hwait
      · refine inOrder_answers fun path hpath => ?_
        exact (hpaths path hpath).resolve_right fun hendless =>
          hfree _ (.pipe hpools hpath hendless)
  | true =>
      rw [if_pos rfl]
      refine ⟨fun e h => ?_, fun hfree => ?_⟩
      · cases h with
        | pipe hloop => cases hpools.symm.trans hloop
        | wait _ ht hlong => exact parallel_of_overlong ⟨_, ht, hlong⟩
      · obtain ⟨done, hdone, hanswers⟩ :=
          pooled_answers hvalid hregistry hnil (hcalm hpools)
        have hshort := parallel_of_not_overlong (fun t ht => by
          rw [← Bool.not_eq_true]
          exact fun hlong => hfree _ (.wait hpools ht hlong)) hdone
        exact ⟨done.result, by rw [hshort]; rfl, hanswers⟩

/-- Quick workers that log to the error stream are calm, if every path can
be read to its end. -/
theorem calmPools_quickRounds (level : Severity) (hvalid : settings.Valid)
    (hregistry : (Worker.buildRegistry tools settings).result = .ok r)
    (hpaths : ∀ path ∈ paths, ∃ s, files.access path = .state s) :
    CalmPools tools files settings { level } id paths quickRounds := by
  intro hpools
  obtain ⟨w, hw, hwr, hws, hfiles⟩ :=
    startedWorker_eq files hvalid hregistry level id
  have hends : ∀ job ∈ Job.ofPaths paths, (ending tools
      (startedWorker tools files settings { level } id) job).isSome = true := by
    intro job hjob
    obtain ⟨s, hs⟩ := hpaths job.path
      (List.mem_of_getElem? (Job.mem_ofPaths.mp hjob))
    rw [hw, ending_eq hwr hws, hfiles, hs]
    rfl
  have hworkers : 0 < workersFor settings paths.length := by
    simp only [inPools, Bool.and_eq_true, decide_eq_true_eq] at hpools
    unfold workersFor
    omega
  have hcalm := calm_quickRounds (deadlineOf settings.fileTimeout).limit?
    hends hworkers
  rwa [show (Job.ofPaths paths).length = paths.length from
    List.length_mapIdx] at hcalm

end Batch

-- ================================================================= output

/-- What is shown is written if all parts of it can be printed. -/
theorem Session.show_of_prints {print : Printer} {parts : List Shown}
    (h : ∀ part ∈ parts, ∃ text, print part = .ok text) (s : Session) :
    (s.show print parts).1 = .ok () := by
  induction parts generalizing s with
  | nil => rfl
  | cons part rest ih =>
      obtain ⟨⟨text, htext⟩, hrest⟩ := List.forall_mem_cons.mp h
      rw [Session.show, htext]
      exact ih hrest _

/-- Otherwise it ends at a part that cannot be printed. -/
theorem Session.show_of_raises {print : Printer} {parts : List Shown}
    (h : ¬∀ part ∈ parts, ∃ text, print part = .ok text) (s : Session) :
    ∃ e, (∃ part ∈ parts, print part = .error e)
      ∧ (s.show print parts).1 = .error (.raised e) := by
  induction parts generalizing s with
  | nil => exact absurd nofun h
  | cons part rest ih =>
      rw [Session.show]
      cases hpart : print part with
      | error e => exact ⟨e, ⟨part, List.mem_cons_self, hpart⟩, rfl⟩
      | ok text =>
          have hrest : ¬∀ part ∈ rest, ∃ text, print part = .ok text :=
            fun hall => h (List.forall_mem_cons.mpr ⟨⟨text, hpart⟩, hall⟩)
          obtain ⟨e, ⟨other, hother, hraises⟩, hshow⟩ := ih hrest _
          exact ⟨e, ⟨other, List.mem_cons_of_mem part hother, hraises⟩, hshow⟩

/-- Whether results can be shown: as data always, as text if all of it can
be printed. -/
def Presentable (print : Printer) (json scopes : Bool)
    (results : List FileResult) : Prop :=
  json = true ∨ ∀ part ∈ results.flatMap (FileResult.shown scopes),
    ∃ text, print part = .ok text

section Finish

variable {print : Printer} {json scopes : Bool} {results : List FileResult}
  {s : Session}

/-- The number of results that are reports. -/
theorem failedCount_eq_zero_iff :
    failedCount results = 0
      ↔ ¬∃ result ∈ results, result.report?.isSome = true := by
  have hok : ∀ result : FileResult,
      (!result.ok) = result.report?.isSome := by
    intro result
    unfold FileResult.ok FileResult.report?
    cases result.outcome <;> rfl
  rw [failedCount, List.length_eq_zero_iff, List.filter_eq_nil_iff]
  simp only [hok, not_exists, not_and]

/-- A run ends well if its results can be shown, and then its status says
whether one of them is a report. -/
theorem finishExtract_of_presentable
    (h : Presentable print json scopes results) :
    (finishExtract print json scopes results s).crash = none
      ∧ ((finishExtract print json scopes results s).status = 1
        ↔ ∃ result ∈ results, result.report?.isSome = true) := by
  have hshown : ∃ after, (if json then
      (.ok (), s.writeData (.list (results.map FileResult.toValue)))
      else s.show print (results.flatMap (FileResult.shown scopes)))
        = (Except.ok (), after) := by
    by_cases hjson : json = true
    · exact ⟨_, if_pos hjson⟩
    · refine ⟨_, (if_neg hjson).trans (Prod.ext ?_ rfl)⟩
      exact Session.show_of_prints (h.resolve_left hjson) s
  obtain ⟨after, hafter⟩ := hshown
  rw [finishExtract, hafter]
  refine ⟨rfl, ?_⟩
  dsimp only
  by_cases hfailed : failedCount results = 0
  · rw [if_pos hfailed]
    exact iff_of_false nofun (failedCount_eq_zero_iff.mp hfailed)
  · rw [if_neg hfailed]
    rw [failedCount_eq_zero_iff, not_not] at hfailed
    exact iff_of_true rfl hfailed

/-- A run whose results cannot be printed crashes. -/
theorem finishExtract_of_not_presentable
    (h : ¬Presentable print json scopes results) :
    ∃ e, (∃ part ∈ results.flatMap (FileResult.shown scopes),
        print part = .error e)
      ∧ (finishExtract print json scopes results s).crash
        = some (.raised e)
      ∧ (finishExtract print json scopes results s).status = 1 := by
  obtain ⟨hjson, hparts⟩ := not_or.mp h
  obtain ⟨e, hraises, hshow⟩ := Session.show_of_raises hparts s
  have hshown : s.show print (results.flatMap (FileResult.shown scopes))
      = (.error (.raised e),
        (s.show print (results.flatMap (FileResult.shown scopes))).2) :=
    Prod.ext hshow rfl
  rw [finishExtract, if_neg hjson, hshown]
  exact ⟨e, hraises, rfl, rfl⟩

end Finish

-- =============================================================== requests

theorem not_mem_null_of_checkPaths {files : FileSystem} {paths : List String}
    (h : checkPaths files paths = .ok ()) :
    ∀ path ∈ paths, '\x00' ∉ path.toList := by
  induction paths with
  | nil => nofun
  | cons path rest ih =>
      rw [checkPaths] at h
      split at h
      next => cases h
      next hnull =>
        split at h
        next => cases h
        next =>
          split at h
          next => cases h
          next =>
            refine List.forall_mem_cons.mpr ⟨?_, ih h⟩
            simpa using hnull

namespace ExtractRequest

/-- A path that was asked for holds no null character. -/
theorem not_mem_null {q : ExtractRequest} {files : FileSystem}
    {words : List String} (h : read files words = .ok q) :
    ∀ path ∈ q.paths, '\x00' ∉ path.toList := by
  obtain ⟨a, -, h⟩ := exists_of_bind_eq_ok h
  obtain ⟨workers, -, h⟩ := exists_of_bind_eq_ok h
  dsimp only at h
  split at h
  next => cases h
  next =>
    obtain ⟨_, hpaths, h⟩ := exists_of_bind_eq_ok h
    cases h
    exact not_mem_null_of_checkPaths hpaths

variable (q : ExtractRequest) (w : World) (settings : Settings) (s : Session)
  (r : Registry) (sources : List String)

/-- The session in which the files of a request are listed. -/
def listing : Session :=
  ({ s with router := (s.router.setId none w.freshId).2 } : Session).logAll
    (Worker.buildRegistry w.tools (q.settings settings.extraction)).events

/-- The files of a request. -/
def listed : Except OsFault (List String) :=
  sourcesOfAll (q.listing w settings s).files r q.paths

/-- The session in which they are outlined. -/
def reading : Session :=
  (q.listing w settings s).log
    (extractStartEvent sources.length
      (q.settings settings.extraction).maxWorkers)

/-- Their batch. -/
def batch : Logged (Except BatchFault (List FileResult)) :=
  Batch.extractFiles w.tools (q.reading w settings s sources).files (some r)
    (q.settings settings.extraction) settings.logging
    (q.reading w settings s sources).router.requestId sources w.schedule

/-- What its workers do, if there are any. -/
def rounds : List Round :=
  Batch.roundsOf w.tools (q.reading w settings s sources).files
    (q.settings settings.extraction) settings.logging
    (q.reading w settings s sources).router.requestId sources w.schedule

theorem listing_alike : (q.listing w settings s).files.Alike s.files :=
  Session.logAll_alike _ { s with router := (s.router.setId none w.freshId).2 }

theorem reading_alike :
    (q.reading w settings s sources).files.Alike s.files :=
  (Session.log_alike _ _).trans (q.listing_alike w settings s)

variable {q w settings s r sources}

/-- What stands in a list has a partner in the other. -/
theorem exists_of_forall₂_mem_right {α β : Type} {R : α → β → Prop}
    {as : List α} {bs : List β} (h : List.Forall₂ R as bs) {b : β}
    (hb : b ∈ bs) : ∃ a ∈ as, R a b := by
  induction h with
  | nil => cases hb
  | @cons a _ as _ hfirst _ ih =>
      rcases List.mem_cons.mp hb with rfl | hb
      · exact ⟨a, List.mem_cons_self, hfirst⟩
      · obtain ⟨other, hother, hrel⟩ := ih hb
        exact ⟨other, List.mem_cons_of_mem a hother, hrel⟩

theorem exists_of_forall₂_mem_left {α β : Type} {R : α → β → Prop}
    {as : List α} {bs : List β} (h : List.Forall₂ R as bs) {a : α}
    (ha : a ∈ as) : ∃ b ∈ bs, R a b := by
  obtain ⟨b, hb, hrel⟩ := exists_of_forall₂_mem_right h.flip ha
  exact ⟨b, hb, hrel⟩

/-- A run of `extract` reports the results of its batch, if its files can
be listed. -/
theorem runExtract_eq
    (hworkers : 1 ≤ (q.settings settings.extraction).maxWorkers)
    (hregistry : (Worker.buildRegistry w.tools
      (q.settings settings.extraction)).result = .ok r) :
    ∃ after : List String → Session, runExtract w settings q s
      = match q.listed w settings s r with
        | .error e => .crashed (q.listing w settings s) (.os e)
        | .ok sources =>
          match (q.batch w settings s r sources).result with
          | .error e => .crashed (after sources) (.batch e)
          | .ok results => finishExtract w.print q.json
              (q.settings settings.extraction).resolveScopes results
              (after sources) := by
  refine ⟨fun sources => (q.reading w settings s sources).logAll
    (q.batch w settings s r sources).events, ?_⟩
  unfold runExtract
  dsimp only
  rw [if_neg (Int.not_lt.mpr hworkers), hregistry]
  rfl

/-- The files of the paths of a request are listed. -/
theorem lists_of_listed (h : q.listed w settings s r = .ok sources) :
    ∃ lists, List.Forall₂ (Lists s.files r) q.paths lists
      ∧ sources = lists.flatten
      ∧ ∀ path ∈ q.paths, ∀ e, ¬Obstructs s.files path e := by
  have halike := q.listing_alike w settings s
  obtain ⟨lists, hlists, hflatten, hfree⟩ := sourcesOfAll_lists h
  exact ⟨lists, hlists.imp fun _ _ => .alike halike, hflatten,
    fun path hpath e he => hfree path hpath e (he.alike halike.symm)⟩

/-- Every file of a request can be read to its end, or is a pipe that the
request names. -/
theorem access_of_mem_listed (hnamed : s.files.WellNamed)
    (hnull : ∀ path ∈ q.paths, '\x00' ∉ path.toList)
    (hlisted : q.listed w settings s r = .ok sources) {source : String}
    (hsource : source ∈ sources) :
    (∃ state, (q.reading w settings s sources).files.access source
        = .state state)
      ∨ (q.reading w settings s sources).files.access source = .endless
        ∧ ∃ path ∈ q.paths, s.files.access path = .endless := by
  obtain ⟨lists, hlists, rfl, -⟩ := lists_of_listed hlisted
  obtain ⟨list, hlist, hmem⟩ := List.mem_flatten.mp hsource
  obtain ⟨path, hpath, hlisted⟩ := exists_of_forall₂_mem_right hlists hlist
  rcases (q.reading_alike w settings s lists.flatten).access source with
    heq | ⟨state, _, hstate, -⟩
  · rw [heq]
    rcases hlisted.access hnamed (hnull path hpath) hmem with
      hstate | ⟨hendless, hpipe⟩
    · exact .inl hstate
    · exact .inr ⟨hendless, path, hpath, hpipe⟩
  · exact .inl ⟨state, hstate⟩

/-- A pipe that a request names is among its files. -/
theorem exists_endless_listed
    (hnull : ∀ path ∈ q.paths, '\x00' ∉ path.toList)
    (hlisted : q.listed w settings s r = .ok sources) {path : String}
    (hpath : path ∈ q.paths) (hpipe : s.files.access path = .endless) :
    ∃ source ∈ sources,
      (q.reading w settings s sources).files.access source = .endless := by
  obtain ⟨lists, hlists, rfl, -⟩ := lists_of_listed hlisted
  obtain ⟨list, hlist, hlisted⟩ := exists_of_forall₂_mem_left hlists hpath
  refine ⟨normalPath path, List.mem_flatten.mpr ⟨list, hlist, ?_⟩, ?_⟩
  · exact hlisted.mem_of_endless hpipe
  · have hnormal := s.files.access_normalPath (hnull path hpath)
    rw [hpipe] at hnormal
    rcases (q.reading_alike w settings s lists.flatten).access
        (normalPath path) with heq | ⟨_, state, -, hstate⟩
    · rw [heq, hnormal]
    · cases hnormal.symm.trans hstate

/-- A request is hindered by what it names just as its batch is by what it
reads. -/
theorem hindered_iff (hnamed : s.files.WellNamed)
    (hnull : ∀ path ∈ q.paths, '\x00' ∉ path.toList)
    (hlisted : q.listed w settings s r = .ok sources)
    (rounds : List Round) (e : BatchFault) :
    Batch.Hindered (q.reading w settings s sources).files
        (q.settings settings.extraction) sources sources rounds e
      ↔ Batch.Hindered s.files (q.settings settings.extraction) q.paths
        sources rounds e := by
  constructor
  · intro h
    cases h with
    | pipe hloop hsource hendless =>
        rcases access_of_mem_listed hnamed hnull hlisted hsource with
          ⟨state, hstate⟩ | ⟨-, path, hpath, hpipe⟩
        · cases hstate.symm.trans hendless
        · exact .pipe hloop hpath hpipe
    | wait hpools ht hlong => exact .wait hpools ht hlong
  · intro h
    cases h with
    | pipe hloop hpath hpipe =>
        obtain ⟨source, hsource, hendless⟩ :=
          exists_endless_listed hnull hlisted hpath hpipe
        exact .pipe hloop hsource hendless
    | wait hpools ht hlong => exact .wait hpools ht hlong

end ExtractRequest

-- ==================================================================== runs

/-- Results that report the files of the paths that were named: one for
each file, in order; none says that no language claims a file that was
found in a directory; and each is an outline or a report. -/
structure Reported (files : FileSystem) (r : Registry) (named : List String)
    (lists : List (List String)) (results : List FileResult) : Prop where
  order : results.map (·.path) = lists.flatten
  claimed : ∀ path ∈ named, files.isDirectory (normalPath path) = true →
    ∀ sources, Lists files r path sources →
    ∀ result ∈ results, result.path ∈ sources →
    ∀ report, result.report? = some report →
      report.code ≠ .unsupportedLanguage
  oneOf : ∀ result ∈ results,
    (result.outline?.isSome = true ∧ result.report? = none)
      ∨ result.outline? = none ∧ result.report?.isSome = true

/-- Answers are in the order of their paths. -/
theorem Answers.map_path {r : Registry} {paths : List String}
    {results : List FileResult} (h : List.Forall₂ (Answers r) paths results) :
    results.map (·.path) = paths
      ∧ ∀ result ∈ results, Answers r result.path result := by
  induction h with
  | nil => exact ⟨rfl, nofun⟩
  | cons hfirst _ ih =>
      refine ⟨?_, List.forall_mem_cons.mpr ⟨?_, ih.2⟩⟩
      · rw [List.map_cons, hfirst.path_eq, ih.1]
      · rwa [hfirst.path_eq]

theorem Reported.of_answers {files : FileSystem} {r : Registry}
    {named : List String} {lists : List (List String)}
    {results : List FileResult}
    (h : List.Forall₂ (Answers r) lists.flatten results) :
    Reported files r named lists results := by
  obtain ⟨horder, hself⟩ := Answers.map_path h
  refine ⟨horder, ?_, fun result _ => ?_⟩
  · intro path _ hdirectory sources hlists result hresult hsource
    exact (hself result hresult).claimed (hlists.supports hdirectory hsource)
  · unfold FileResult.outline? FileResult.report?
    cases result.outcome with
    | ok o => exact .inl ⟨rfl, rfl⟩
    | error e => exact .inr ⟨rfl, rfl⟩

/-- A run of `extract` on paths that exist, in this process or in calm
pools, comes to one result for each source, in order, and its status says
whether one of them is a report. There are three exceptions, and each is a
crash: the system refuses to say what there is, the files cannot be
outlined at all, or their results are shown as text and the printer fails
at some part of it. The last ends with the status of a failed file, even
if all files have an outline. -/
theorem runExtract_reports_every_source {w : World} {settings : Settings}
    {q : ExtractRequest} {s : Session} {words : List String} {r : Registry}
    (hread : ExtractRequest.read s.files words = .ok q)
    (hnamed : s.files.WellNamed)
    (hvalid : ∃ document,
      ExtractionSettings.check document = .passed settings.extraction)
    (hworkers : 1 ≤ (q.settings settings.extraction).maxWorkers)
    (hregistry : (Worker.buildRegistry w.tools
      (q.settings settings.extraction)).result = .ok r)
    (hcalm : ∀ sources, q.listed w settings s r = .ok sources →
      Batch.CalmPools w.tools (q.reading w settings s sources).files
        (q.settings settings.extraction) settings.logging
        (q.reading w settings s sources).router.requestId sources
        w.schedule) :
    ((∃ path ∈ q.paths, ∃ e, Obstructs s.files path e) →
      ∃ path ∈ q.paths, ∃ e, Obstructs s.files path e
        ∧ (runExtract w settings q s).crash = some (.os e))
    ∧ ((¬∃ path ∈ q.paths, ∃ e, Obstructs s.files path e) →
      ∃ lists : List (List String),
      List.Forall₂ (Lists s.files r) q.paths lists
      ∧ (∀ e, Batch.Hindered s.files (q.settings settings.extraction) q.paths
          lists.flatten (q.rounds w settings s lists.flatten) e →
        (runExtract w settings q s).crash = some (.batch e))
      ∧ ((∀ e, ¬Batch.Hindered s.files (q.settings settings.extraction)
          q.paths lists.flatten (q.rounds w settings s lists.flatten) e) →
        ∃ results after,
        runExtract w settings q s = finishExtract w.print q.json
          (q.settings settings.extraction).resolveScopes results after
        ∧ Reported s.files r q.paths lists results
        ∧ (Presentable w.print q.json
            (q.settings settings.extraction).resolveScopes results →
          (runExtract w settings q s).crash = none
          ∧ ((runExtract w settings q s).status = 1
            ↔ ∃ result ∈ results, result.report?.isSome = true))
        ∧ (¬Presentable w.print q.json
            (q.settings settings.extraction).resolveScopes results →
          ∃ e, (∃ part ∈ results.flatMap (FileResult.shown
              (q.settings settings.extraction).resolveScopes),
              w.print part = .error e)
            ∧ (runExtract w settings q s).crash = some (.raised e)
            ∧ (runExtract w settings q s).status = 1))) := by
  obtain ⟨document, hdocument⟩ := hvalid
  have hchecked := ExtractionSettings.valid_of_check hdocument
  have hvalid : (q.settings settings.extraction).Valid :=
    ⟨hchecked.maxFileSizeMb, hworkers, hchecked.fileTimeout⟩
  have hnull := ExtractRequest.not_mem_null hread
  -- the files are listed after some events have been logged, and read after
  -- one more; both file systems are like that of the start
  have halike := q.listing_alike w settings s
  obtain ⟨after, hrun⟩ := ExtractRequest.runExtract_eq hworkers hregistry
  cases hlisted : q.listed w settings s r with
  | error e =>
      obtain ⟨path, hpath, hobstructs⟩ := obstructs_of_sourcesOfAll hlisted
      have hobstructs := hobstructs.alike halike
      refine ⟨fun _ => ⟨path, hpath, e, hobstructs, ?_⟩, fun hfree => ?_⟩
      · rw [hrun, hlisted]
        rfl
      · exact absurd ⟨path, hpath, e, hobstructs⟩ hfree
  | ok sources =>
  rw [hlisted] at hrun
  obtain ⟨lists, hlists, rfl, hfree⟩ :=
    ExtractRequest.lists_of_listed hlisted
  refine ⟨?_, fun _ => ⟨lists, hlists, fun e he => ?_, fun hnot => ?_⟩⟩
  · rintro ⟨path, hpath, e, he⟩
    exact absurd he (hfree path hpath e)
  all_goals
    obtain ⟨hhindered, hanswered⟩ := Batch.extractFiles_answers hvalid
      hregistry (fun _ hsource => (ExtractRequest.access_of_mem_listed hnamed
        hnull hlisted hsource).imp_right And.left) (hcalm _ hlisted)
  · have hbatch := hhindered e
      ((ExtractRequest.hindered_iff hnamed hnull hlisted _ e).mpr he)
    rw [hrun]
    dsimp only
    rw [ExtractRequest.batch, hbatch]
    rfl
  · obtain ⟨results, hbatch, hanswers⟩ := hanswered fun e he =>
      hnot e ((ExtractRequest.hindered_iff hnamed hnull hlisted _ e).mp he)
    have hfinish : runExtract w settings q s
        = finishExtract w.print q.json
          (q.settings settings.extraction).resolveScopes results
          (after lists.flatten) := by
      rw [hrun]
      dsimp only
      rw [ExtractRequest.batch, hbatch]
    refine ⟨results, after lists.flatten, hfinish, .of_answers hanswers, ?_,
      ?_⟩
    · rw [hfinish]
      exact finishExtract_of_presentable
    · rw [hfinish]
      exact finishExtract_of_not_presentable

/-- A directory with two files in Go, one of them below another directory,
a link to the first, a file in no language, and a directory that nobody may
list. -/
def pairFiles : FileSystem :=
  { entries := [(["d", "a.go"], .file []), (["d", "b", "c.GO"], .file []),
      (["d", "notes"], .file []), (["d", "shut", "e.go"], .file [])]
    links := [(["d", "l.go"], "a.go")]
    refusals := [((.list, ["d", "shut"]), .denied)] }

/-- A run on some files with the built-in languages. The parser finds no
definitions, whatever it reads. -/
def plainWorld (files : FileSystem) : World :=
  { program := "outline"
    sources :=
      { files := files
        reader := Yaml.reader
        json := Json.reader
        userDocument := "/u" }
    grammars := Batch.bareTools.grammars
    packs := Batch.bareTools.packs
    engine :=
      { parse := fun _ source => some (Forest.ofPreorder source []) }
    print := Console.print
    freshId := Batch.bareTools.freshId }

/-- Nothing is in the way of a search: the directory that nobody may list
is passed over. -/
theorem not_obstructs_pairFiles {e : OsFault} : ¬Obstructs pairFiles "d" e := by
  have hlookup : ∀ p ∈ pairFiles.names, ∀ steps ∈ p.inits,
      (pairFiles.lookup ((LexicalPath.ofText "d").descend
        steps.tail).toText).toOption.isSome = true := by decide +kernel
  have hfind : pairFiles.find (normalPath "d") = .ok (["d"], .directory) := rfl
  intro h
  cases h with
  | asked hasked => cases hfind.symm.trans hasked
  | @listed place steps cause _ _ _ _ hrefusal hother =>
      -- there is but one refusal, and it is one of permission
      have hdenied : cause = .denied := by
        rw [FileSystem.refusal?, pairFiles, List.lookup_cons] at hrefusal
        split at hrefusal
        next =>
          cases hrefusal
          rfl
        next => cases hrefusal
      rw [hdenied] at hother
      cases hother
  | @child place steps _ hplace hne hshows hrefused =>
      cases hfind.symm.trans hplace
      obtain ⟨more, hmore⟩ :=
        (FileSystem.stands_iff (List.cons_ne_nil _ _)).mp hshows.stands
      have hthere := hlookup _ hmore (["d"] ++ steps)
        ((List.mem_inits _ _).mpr ⟨more, rfl⟩)
      rw [List.singleton_append, List.tail_cons, hrefused] at hthere
      cases hthere

/-- A run on a file whose name is a mark. -/
def markedRun (json : Bool) : Finish :=
  let files : FileSystem := { entries := [(["[", "b].go"], .file [])] }
  runExtract (plainWorld files) { extraction := { languages := some ["go"] } }
    { paths := ["[/b].go"], json := json } { files := files }

/-- Two workers outline the files of a directory. A file whose name is a
mark has an outline, too, and as data it is shown; but its heading cannot be
printed, and a run that tries to ends with the status of a failed file. -/
theorem runExtract_reports_every_source_pair :
    (∃ r lists results after,
      List.Forall₂ (Lists pairFiles r) ["d"] lists
      ∧ runExtract (plainWorld pairFiles)
          { extraction := Batch.pairSettings none } { paths := ["d"] }
          { files := pairFiles }
        = finishExtract Console.print false false results after
      ∧ Reported pairFiles r ["d"] lists results)
    ∧ (markedRun true).crash = none ∧ (markedRun true).status = 0
    ∧ (∃ e, (markedRun false).crash = some (.raised e))
    ∧ (markedRun false).status = 1 := by
  refine ⟨?_, ?_⟩
  · obtain ⟨r, hr⟩ := Batch.exists_pairRegistry none
    have hvalid : (Batch.pairSettings none).Valid :=
      Batch.pairSettings_valid nofun
    have hnamed : pairFiles.WellNamed := by decide
    have hread : ExtractRequest.read pairFiles ["d"]
        = .ok { paths := ["d"] } := rfl
    have hpipe : ∀ path ∈ ["d"], pairFiles.access path ≠ .endless := by
      intro path hpath
      rw [List.mem_singleton.mp hpath]
      exact nofun
    obtain ⟨-, hfree⟩ := @runExtract_reports_every_source
      (plainWorld pairFiles) { extraction := Batch.pairSettings none }
      { paths := ["d"] } { files := pairFiles } ["d"] r hread hnamed
      ⟨_, ExtractionSettings.check_toValue hvalid⟩ hvalid.maxWorkers hr
      (fun sources hlisted => Batch.calmPools_quickRounds .info hvalid hr
        fun source hsource => by
          rcases ExtractRequest.access_of_mem_listed hnamed
              (ExtractRequest.not_mem_null hread) hlisted hsource with
            hstate | ⟨-, path, hpath, hendless⟩
          · exact hstate
          · exact absurd hendless (hpipe path hpath))
    obtain ⟨lists, hlists, -, hfree⟩ := hfree <| by
      rintro ⟨path, hpath, e, hobstructs⟩
      rw [List.mem_singleton.mp hpath] at hobstructs
      exact not_obstructs_pairFiles hobstructs
    obtain ⟨results, after, hrun, hreported, -⟩ := hfree fun e he => by
      cases he with
      | pipe _ hpath hendless => exact hpipe _ hpath hendless
      | @wait t _ _ hlong => cases t.overlong_none.symm.trans hlong
    exact ⟨r, lists, results, after, hlists, hrun, hreported⟩
  · have hraised : ((markedRun false).crash.bind Crash.raised?).isSome
        = true := by decide +kernel
    have hcalm : (markedRun true).crash.isNone = true := by decide +kernel
    refine ⟨Option.isNone_iff_eq_none.mp hcalm, by decide +kernel, ?_,
      by decide +kernel⟩
    obtain ⟨e, he⟩ := Option.isSome_iff_exists.mp hraised
    obtain ⟨c, hcrash, hc⟩ := Option.bind_eq_some_iff.mp he
    exact ⟨e, hcrash.trans (congrArg some (Crash.raised?_eq_some_iff.mp hc))⟩

end Outline
