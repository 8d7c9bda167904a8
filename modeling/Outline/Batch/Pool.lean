/-
A pool of workers with deadlines.

Jobs wait in a queue, at most one per usable worker is in flight, and
every job ends as one entry: its worker's result, a failure, or the end
of its time. A worker whose job ran out of time is lost to the pool.
When all are lost the pool is over, and the rest of the queue goes to a
new one.

Nothing here knows how long a job takes. What the workers do is told
round by round, in any way whatever: which submissions are refused,
whether there is anything to wait for, who has ended, and what time it
is.
-/
import Outline.Batch.FileResult

namespace Outline

-- =========================================================== vocabulary

/-- A file to be done, with its place among the inputs. -/
structure Job where
  index : Nat
  path : String
deriving DecidableEq, Repr, Inhabited

/-- A job that was given to a worker, and when. -/
structure Flight where
  job : Job
  start : Nat
deriving DecidableEq, Repr, Inhabited

/-- How a worker is done with a job. -/
inductive Ending where
  | returned (result : FileResult)
  | raised (reason : String)
deriving Repr, Inhabited

/-- How a job is done with. One whose time is over says when it started
and when that was noticed. -/
inductive Outcome where
  | returned (result : FileResult)
  | failed (reason : String)
  | expired (start now : Nat)
deriving Repr, Inhabited

/-- The outcome of an ending. -/
def Ending.outcome : Ending → Outcome
  | .returned r => .returned r
  | .raised reason => .failed reason

/-- What is written down about a job. -/
structure Entry where
  job : Job
  outcome : Outcome
deriving Repr, Inhabited

/-- What the workers do in one round: the submissions they refuse, the
times at which they take the others, who has ended at the end of the
round, and the time then. `asked` is the time at which the wait of the
round begins to block, if it blocks: it does not where somebody has ended
by then. -/
structure Round where
  refused : Job → Option String
  starts : Job → Nat
  asked : Option Nat := none
  ended : Job → Option Ending
  now : Nat

-- ================================================================ pools

/-- A pool at work. `capacity` is the number of usable workers. -/
structure Pool where
  workers : Nat
  capacity : Nat
  queue : List Job
  pending : List Flight := []
  entries : List Entry := []
deriving Repr, Inhabited

namespace Pool

/-- A new pool: every worker is usable. -/
def fresh (workers : Nat) (queue : List Job) : Pool :=
  { workers := workers, capacity := workers, queue := queue }

/-- Whether nothing is queued or in flight. -/
def idle (p : Pool) : Bool := p.queue.isEmpty && p.pending.isEmpty

/-- The number of workers that are lost. -/
def lost (p : Pool) : Nat := p.workers - p.capacity

/-- Submits the jobs of a queue while a worker is free. A refused job
is done with and takes no worker. -/
def submit (r : Round) (p : Pool) : List Job → Pool
  | [] => { p with queue := [] }
  | j :: rest =>
    if p.pending.length < p.capacity then
      match r.refused j with
      | some reason =>
        submit r
          { p with entries := p.entries ++ [⟨j, .failed reason⟩] } rest
      | none =>
        submit r { p with pending := p.pending ++ [⟨j, r.starts j⟩] } rest
    else { p with queue := j :: rest }

/-- Gives every free worker a job. -/
def fill (r : Round) (p : Pool) : Pool := p.submit r p.queue

/-- The entry of a flight that has ended. -/
def entryIfEnded (r : Round) (f : Flight) : Option Entry :=
  (r.ended f.job).map fun e => ⟨f.job, e.outcome⟩

/-- Writes down the flights that have ended. -/
def collect (r : Round) (p : Pool) : Pool :=
  { p with
    pending := p.pending.filter fun f => (r.ended f.job).isNone
    entries := p.entries ++ p.pending.filterMap (entryIfEnded r) }

/-- Whether the time of a flight is over. -/
def overdue (limit now : Nat) (f : Flight) : Bool := f.start + limit ≤ now

/-- Gives up the flights whose time is over, and their workers. -/
def expire (limit : Option Nat) (now : Nat) (p : Pool) : Pool :=
  match limit with
  | none => p
  | some limit =>
    let late := p.pending.filter (overdue limit now)
    { p with
      capacity := p.capacity - late.length
      pending := p.pending.filter fun f => !overdue limit now f
      entries := p.entries ++
        late.map fun f => ⟨f.job, .expired f.start now⟩ }

/-- The rest of a round, once every free worker has a job. -/
def settle (limit : Option Nat) (r : Round) (p : Pool) : Pool :=
  (p.collect r).expire limit r.now

/-- Works until nothing is in flight and nothing can be. The answer is
the pool as it ends and the rounds that are left, or nothing if the
rounds end first. -/
def work (limit : Option Nat) : List Round → Pool → Option (Pool × List Round)
  | [], p => if p.idle then some (p, []) else none
  | r :: rounds, p =>
    if p.idle then some (p, r :: rounds)
    else
      let filled := p.fill r
      if filled.pending.isEmpty then some (filled, rounds)
      else work limit rounds (filled.settle limit r)

/-- Works with one pool after the other until the queue is empty; the
answer is every pool as it ended. At most `count` pools are used. -/
def workAll (workers : Nat) (limit : Option Nat) :
    Nat → List Job → List Round → Option (List Pool)
  | _, [], _ => some []
  | 0, _ :: _, _ => none
  | count + 1, j :: queue, rounds =>
    match work limit rounds (fresh workers (j :: queue)) with
    | none => none
    | some (p, rounds) =>
      (workAll workers limit count p.queue rounds).map (p :: ·)

end Pool

-- ============================================================== results

/-- The jobs of a list of paths. -/
def Job.ofPaths (paths : List String) : List Job :=
  paths.mapIdx fun i path => ⟨i, path⟩

/-- The result of a job. `timeout` is the limit as it is shown. -/
def Entry.result (timeout : Value) (e : Entry) : FileResult :=
  match e.outcome with
  | .returned r => r
  | .failed reason => .unexpected e.job.path reason
  | .expired .. =>
    { path := e.job.path
      outcome := .error (InternalFault.timeout e.job.path timeout).report }

/-- All that is written down by pools, in order. -/
def Pool.allEntries (pools : List Pool) : List Entry :=
  pools.flatMap (·.entries)

/-- What stands in the slot of an index: the entry written last. -/
def slot? (entries : List Entry) (index : Nat) : Option Entry :=
  entries.reverse.find? fun e => e.job.index == index

/-- The results of `count` jobs in the order of their indices; a slot
that nobody wrote is left out. -/
def resultsInOrder (timeout : Value) (count : Nat) (entries : List Entry) :
    List FileResult :=
  ((List.range count).filterMap (slot? entries)).map (Entry.result timeout)

-- =============================================================== events

/-- The logger of batches. -/
def batchLogger : String := "codestruct.structure.batch"

/-- The events of an entry. -/
def Entry.events (timeout : Value) (e : Entry) : List Event :=
  match e.outcome with
  | .returned _ => []
  | .failed reason =>
    [{ logger := batchLogger
       severity := .error
       name := "worker_failed"
       fields := [("path", .text e.job.path), ("error", .text reason)] }]
  | .expired .. =>
    [{ logger := batchLogger
       severity := .warning
       name := "file_timeout"
       fields := [("path", .text e.job.path), ("timeout_sec", timeout)] }]

/-- The last event of a pool, if it has lost workers. -/
def Pool.closing (p : Pool) : List Event :=
  if p.lost = 0 then []
  else
    [{ logger := batchLogger
       severity := .debug
       name := "pool_abandoned"
       fields := [("hung_workers", .int p.lost),
         ("remaining", .int p.queue.length)] }]

/-- The events of a pool: those of its entries, and a last one. -/
def Pool.events (timeout : Value) (p : Pool) : List Event :=
  p.entries.flatMap (Entry.events timeout) ++ p.closing

/-- The event of a batch that begins. -/
def batchEvent (files workers : Nat) : Event :=
  { logger := batchLogger
    severity := .debug
    name := "batch_start"
    fields := [("files", .int files), ("workers", .int workers)] }

end Outline
