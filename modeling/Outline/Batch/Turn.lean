/-
The turns of a batch.

A turn is one round of a pool together with the pool at its beginning,
and the history of a batch is the list of its turns, over all its pools.

A turn waits until somebody has ended or the time of its oldest flight is
over. Not every wait can be asked for: one that is too long fails as soon
as it has to block, and that is the end of the batch. A wait that finds
somebody ended returns at once, however long it was to be.
-/
import Outline.Batch.Pool

namespace Outline

-- ================================================================ turns

/-- One round of a pool: the pool as the round begins, and what the
workers do in it. -/
structure Turn where
  before : Pool
  round : Round

namespace Turn

/-- The pool while it waits: every free worker has a job. -/
def waiting (t : Turn) : Pool := t.before.fill t.round

/-- The jobs that leave the queue in this turn. -/
def taken (t : Turn) : List Job :=
  t.before.queue.take (t.before.queue.length - t.waiting.queue.length)

/-- The flights that are given up at the end of the turn. -/
def late (limit : Option Nat) (t : Turn) : List Flight :=
  match limit with
  | none => []
  | some limit =>
    (t.waiting.collect t.round).pending.filter
      (Pool.overdue limit t.round.now)

/-- The pool after the turn. -/
def after (limit : Option Nat) (t : Turn) : Pool :=
  t.waiting.settle limit t.round

end Turn

namespace Round

/-- The flight of a job that is taken. -/
def flight? (r : Round) (j : Job) : Option Flight :=
  match r.refused j with
  | some _ => none
  | none => some ⟨j, r.starts j⟩

/-- The entry of a job that is refused. -/
def refusal? (r : Round) (j : Job) : Option Entry :=
  (r.refused j).map fun reason => ⟨j, .failed reason⟩

end Round

namespace Turn

/-- What is written down before the turn waits. -/
def refusals (t : Turn) : List Entry := t.taken.filterMap t.round.refusal?

/-- What is written down in a turn. -/
def written (limit : Option Nat) (t : Turn) : List Entry :=
  t.refusals ++
    t.waiting.pending.filterMap (Pool.entryIfEnded t.round) ++
    (t.late limit).map fun f => ⟨f.job, .expired f.start t.round.now⟩

/-- Whether the pool ends with the turn. -/
def closes (limit : Option Nat) (t : Turn) : Bool :=
  t.waiting.pending.isEmpty || (t.after limit).idle

/-- The events of a turn: those of what is written down, and the last one
of the pool if it ends with the turn. -/
def events (timeout : Value) (limit : Option Nat) (t : Turn) : List Event :=
  (t.written limit).flatMap (Entry.events timeout) ++
    if t.closes limit then (t.after limit).closing else []

end Turn

namespace Pool

/-- The turns of a pool at work. -/
def turns (limit : Option Nat) : List Round → Pool → List Turn
  | [], _ => []
  | r :: rounds, p =>
    if p.idle then []
    else
      let t : Turn := ⟨p, r⟩
      if t.waiting.pending.isEmpty then [t]
      else t :: turns limit rounds (t.after limit)

/-- The turns of all pools of a batch. -/
def turnsAll (workers : Nat) (limit : Option Nat) :
    Nat → List Job → List Round → List Turn
  | _, [], _ => []
  | 0, _ :: _, _ => []
  | count + 1, j :: queue, rounds =>
    let p := fresh workers (j :: queue)
    turns limit rounds p ++
      match work limit rounds p with
      | none => []
      | some (p, rounds) => turnsAll workers limit count p.queue rounds

end Pool

-- ================================================================ waits

/-- How a time limit is kept. It is over after some ticks of the clock, or
it never is; and a limit that never is may still be waited for. -/
inductive Deadline where
  | none
  | ticks (limit : Nat)
  | infinite
deriving DecidableEq, Repr, Inhabited

/-- After how many ticks the time of a flight is over. -/
def Deadline.limit? : Deadline → Option Nat
  | .ticks limit => some limit
  | _ => Option.none

/-- The first time that is too long to be waited for, in ticks. -/
def Deadline.tooLong : Nat := 9223372036854775808

namespace Turn

/-- When the first of the flights that a turn waits for was begun. -/
def oldest (t : Turn) : Nat :=
  ((t.waiting.pending.map (·.start)).min?).getD 0

/-- How long a turn is to wait, if it is `asked` when the wait begins:
until the time of the oldest flight is over, and not at all if it is over
already. -/
def waitTime (limit asked : Nat) (t : Turn) : Nat :=
  t.oldest + limit - asked

/-- Whether a turn fails because its wait has to block and is too
long. -/
def overlong (deadline : Deadline) (t : Turn) : Bool :=
  match t.round.asked, deadline with
  | some _, .infinite => !t.waiting.pending.isEmpty
  | some asked, .ticks limit =>
    !t.waiting.pending.isEmpty &&
      decide (Deadline.tooLong ≤ t.waitTime limit asked)
  | _, _ => false

end Turn

end Outline
