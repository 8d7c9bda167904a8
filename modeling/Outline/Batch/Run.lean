/-
Many files.

One worker is no reason for a pool: with a single worker or a single
file the files are outlined one after the other. Otherwise a pool does
the work. Either way there is one result for every path, in the order
of the paths.
-/
import Outline.Batch.Turn
import Outline.Batch.Worker

namespace Outline

/-- Why a batch has no results at all. -/
inductive BatchFault where
  | registry (e : StructureFault)
  | unnameable
  | endless
  | waitTooLong
deriving DecidableEq, Repr, Inhabited

namespace Batch

-- =========================================================== in process

/-- Outlines files one after the other. A path that names nothing, or a
file that never ends, is the end of it. -/
def inOrder (tools : Toolbox) (files : FileSystem) (r : Registry)
    (settings : ExtractionSettings) :
    List String → Logged (Except BatchFault (List FileResult))
  | [] => .silent (.ok [])
  | path :: rest =>
    match files.access path with
    | .unnameable => .silent (.error .unnameable)
    | .endless => .silent (.error .endless)
    | .state s =>
      (r.extractFile tools.engine settings path s).andThen fun first =>
        (inOrder tools files r settings rest).map fun
          | .error e => .error e
          | .ok results => .ok (first :: results)

/-- Outlines files in this process, with a registry of its own unless
there is one already. -/
def sequential (tools : Toolbox) (files : FileSystem)
    (shared : Option Registry) (settings : ExtractionSettings)
    (paths : List String) : Logged (Except BatchFault (List FileResult)) :=
  match shared with
  | some r => inOrder tools files r settings paths
  | none =>
    (Worker.buildRegistry tools settings).andThen fun
      | .error e => .silent (.error (.registry e))
      | .ok r => inOrder tools files r settings paths

-- ============================================================== in pools

/-- The reason that is given for a file of a pool that broke down. -/
def brokenPool : String := "<pool>"

/-- The reason that is given for a path with a null character. -/
def nullInPath : String := "embedded null byte"

/-- How a worker that was started is done with a job: never, if the
file does not end. Where workers cannot start, every job fails. -/
def ending (tools : Toolbox) (started : Except WorkerFault Unit × Worker)
    (job : Job) : Option Ending :=
  match started with
  | (.error _, _) => some (.raised brokenPool)
  | (.ok (), w) =>
    match (w.extract tools job.path).1 with
    | .ok result => some (.returned result)
    | .error .endless => none
    | .error .unnameable => some (.raised nullInPath)
    | .error _ => some (.raised brokenPool)

/-- The workers of a batch as they start: the settings reach them as
documents, and the files are those of the batch. -/
def startedWorker (tools : Toolbox) (files : FileSystem)
    (settings : ExtractionSettings) (logging : LoggingSettings)
    (id : Option String) : Except WorkerFault Unit × Worker :=
  Worker.start tools settings.toValue logging.toValue id
    { session := { files } }

/-- The order of things in a batch, round by round: from how each job
ends, the time limit and the number of jobs. -/
abbrev Schedule := (Job → Option Ending) → Option Nat → Nat → List Round

/-- The rounds of workers that are quick: a job that ends at all has
ended before the time of any other is over. Every span of `limit` holds
enough rounds to do all jobs, and every job that is left at its end is
overdue. -/
def quickRounds : Schedule := fun ending limit jobs =>
  let round (start now : Nat) : Round :=
    { refused := fun _ => none
      starts := fun _ => start
      asked := some start
      ended := ending
      now := now }
  match limit with
  | none => List.replicate jobs (round 0 0)
  | some limit =>
    (List.range jobs).flatMap fun k =>
      List.replicate jobs (round (k * limit) (k * limit)) ++
        [round (k * limit) ((k + 1) * limit)]

/-- Ticks of the clock in a second. -/
def ticksPerSecond : Nat := 1000000000

/-- The deadline of a time limit in seconds. A part of a tick counts as
a whole one, a limit below zero is over at once, and one that is no
number is never reached and never waited for. -/
def deadlineOf : Option Binary64 → Deadline
  | .none => .none
  | some .nan => .none
  | some (.infinite negative) => if negative then .ticks 0 else .infinite
  | some x =>
    match x.ratio? with
    | some (false, num, den) =>
      .ticks ((num * ticksPerSecond + den - 1) / den)
    | some (true, _, _) => .ticks 0
    | .none => .none

/-- The number of workers for a number of files. -/
def workersFor (settings : ExtractionSettings) (files : Nat) : Nat :=
  min settings.maxWorkers.toNat files

/-- The results of paths and the events on the way, if workers do as
`rounds` says. -/
def pooled (settings : ExtractionSettings) (limit : Option Nat)
    (rounds : List Round) (paths : List String) :
    Option (Logged (List FileResult)) :=
  let timeout := Value.ofOption (settings.fileTimeout.map .float)
  let workers := workersFor settings paths.length
  (Pool.workAll workers limit paths.length (Job.ofPaths paths) rounds).map
    fun pools =>
      ⟨resultsInOrder timeout paths.length (Pool.allEntries pools),
        batchEvent paths.length workers ::
          pools.flatMap (Pool.events timeout)⟩

/-- What the workers of a batch do, round by round. -/
def roundsOf (tools : Toolbox) (files : FileSystem)
    (settings : ExtractionSettings) (logging : LoggingSettings)
    (id : Option String) (paths : List String) (schedule : Schedule) :
    List Round :=
  schedule (ending tools (startedWorker tools files settings logging id))
    (deadlineOf settings.fileTimeout).limit? paths.length

/-- The turns of a batch whose workers do as `rounds` says. -/
def turns (settings : ExtractionSettings) (rounds : List Round)
    (paths : List String) : List Turn :=
  Pool.turnsAll (workersFor settings paths.length)
    (deadlineOf settings.fileTimeout).limit? paths.length
    (Job.ofPaths paths) rounds

/-- The turns of a batch before the first one whose wait is too long, and
that one. -/
def overlongTurn? (settings : ExtractionSettings) (turns : List Turn) :
    Option (List Turn × Turn) :=
  let fails := Turn.overlong (deadlineOf settings.fileTimeout)
  (turns.find? fails).map fun t => (turns.takeWhile (!fails ·), t)

/-- The events of a batch up to a wait that is too long. -/
def eventsUntil (settings : ExtractionSettings) (before : List Turn)
    (t : Turn) : List Event :=
  let timeout := Value.ofOption (settings.fileTimeout.map .float)
  let limit := (deadlineOf settings.fileTimeout).limit?
  before.flatMap (Turn.events timeout limit) ++
    t.refusals.flatMap (Entry.events timeout)

/-- Outlines files in pools of workers. A wait that is too long is the
end of it. -/
def parallel (tools : Toolbox) (files : FileSystem)
    (settings : ExtractionSettings) (logging : LoggingSettings)
    (id : Option String) (paths : List String)
    (schedule : Schedule := quickRounds) :
    Logged (Except BatchFault (List FileResult)) :=
  let begun := batchEvent paths.length (workersFor settings paths.length)
  let rounds := roundsOf tools files settings logging id paths schedule
  match overlongTurn? settings (turns settings rounds paths) with
  | some (before, t) =>
    ⟨.error .waitTooLong, begun :: eventsUntil settings before t⟩
  | none =>
    let limit := (deadlineOf settings.fileTimeout).limit?
    match pooled settings limit rounds paths with
    | some done => done.map .ok
    | none => ⟨.error .endless, [begun]⟩

-- ================================================================= both

/-- Whether paths are outlined in pools. -/
def inPools (settings : ExtractionSettings) (paths : List String) : Bool :=
  decide (1 < settings.maxWorkers) && decide (1 < paths.length)

/-- Outlines files. A registry that is there already is used in this
process only; workers build their own. -/
def extractFiles (tools : Toolbox) (files : FileSystem)
    (shared : Option Registry) (settings : ExtractionSettings)
    (logging : LoggingSettings) (id : Option String) (paths : List String)
    (schedule : Schedule := quickRounds) :
    Logged (Except BatchFault (List FileResult)) :=
  if paths.isEmpty then .silent (.ok [])
  else if inPools settings paths then
    parallel tools files settings logging id paths schedule
  else sequential tools files shared settings paths

end Batch

end Outline
