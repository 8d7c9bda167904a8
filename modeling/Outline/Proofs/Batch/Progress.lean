/-
A batch comes to its end.

Two loops could go on for ever: the rounds of a pool, and the pools that
follow each other. What pays for the rounds is the load of the pool. A
wait returns because somebody has ended, or because it has lasted as long
as was asked for; and then the flight that it was computed for is the one
whose time is over (`exists_late`). Either way something is written down,
and the load drops (`after_load_lt`).

What pays for the pools is the queue. A pool leaves jobs behind only if
it has lost all its workers, each to a job that was never in the queue
again (`work_expirations`). So a batch of `n` jobs and `w` workers needs
`n ⌈/⌉ w` pools at most, and one round for each job and for each pool
(`workAll_ends`).
-/
import Mathlib.Algebra.Order.Floor.Div
import Outline.Proofs.Batch.Calm
import Outline.Proofs.Batch.Capacity

namespace Outline

-- ================================================================== waits

namespace Turn

/-- A wait that returns: somebody has ended, or there is a limit and the
wait has lasted as long as it was to. -/
def Returns (limit : Option Nat) (t : Turn) : Prop :=
  (∃ f ∈ t.waiting.pending, (t.round.ended f.job).isSome)
    ∨ ∃ l asked, limit = some l
      ∧ asked + t.waitTime l asked ≤ t.round.now

variable {limit : Option Nat} {t : Turn}

/-- It does not matter when the wait began: if it has lasted long enough
then the time of the oldest flight is over. -/
theorem returns_iff :
    t.Returns limit
      ↔ (∃ f ∈ t.waiting.pending, (t.round.ended f.job).isSome)
        ∨ ∃ l ∈ limit, t.oldest + l ≤ t.round.now := by
  refine or_congr_right ⟨?_, ?_⟩
  · rintro ⟨l, asked, hlimit, hwaited⟩
    refine ⟨l, hlimit, ?_⟩
    rw [waitTime] at hwaited
    omega
  · rintro ⟨l, hlimit, hover⟩
    exact ⟨l, 0, hlimit, by rw [waitTime]; omega⟩

instance : Decidable (t.Returns limit) := decidable_of_iff' _ returns_iff

/-- The oldest flight is one of those in flight. -/
theorem exists_oldest (hsome : t.waiting.pending ≠ []) :
    ∃ f ∈ t.waiting.pending, f.start = t.oldest := by
  have hstarts : t.waiting.pending.map (·.start) ≠ [] := by
    simpa using hsome
  obtain ⟨start, hmin⟩ := Option.isSome_iff_exists.mp
    (List.isSome_min?_of_ne_nil hstarts)
  obtain ⟨f, hf, hstart⟩ := List.mem_map.mp (List.min?_mem hmin)
  refine ⟨f, hf, ?_⟩
  rw [oldest, hmin, hstart, Option.getD_some]

/-- If nobody has ended when the time of the oldest flight is over, then
that flight is late. -/
theorem exists_late {l : Nat} (hsome : t.waiting.pending ≠ [])
    (hnobody : ∀ f ∈ t.waiting.pending, t.round.ended f.job = none)
    (hover : t.oldest + l ≤ t.round.now) : ∃ f, f ∈ t.late (some l) := by
  obtain ⟨f, hf, hstart⟩ := exists_oldest hsome
  rw [← hstart] at hover
  exact ⟨f, mem_late.mpr ⟨l, rfl, hf, hnobody f hf, hover⟩⟩

/-- A turn whose wait returns writes something down. -/
theorem written_ne_nil (hsome : t.waiting.pending ≠ [])
    (hreturns : t.Returns limit) : t.written limit ≠ [] := by
  by_cases hended : ∃ f ∈ t.waiting.pending, (t.round.ended f.job).isSome
  · obtain ⟨f, hf, hend⟩ := hended
    obtain ⟨e, he⟩ := Option.isSome_iff_exists.mp hend
    have hentry : (⟨f.job, e.outcome⟩ : Entry)
        ∈ t.waiting.pending.filterMap (Pool.entryIfEnded t.round) :=
      List.mem_filterMap.mpr ⟨f, hf, by simp [Pool.entryIfEnded, he]⟩
    refine List.ne_nil_of_mem (a := ⟨f.job, e.outcome⟩) ?_
    simp only [written, List.mem_append]
    exact .inl (.inr hentry)
  · obtain ⟨l, rfl, hover⟩ := (returns_iff.mp hreturns).resolve_left hended
    have hnobody : ∀ f ∈ t.waiting.pending, t.round.ended f.job = none := by
      intro f hf
      rw [← Option.not_isSome_iff_eq_none]
      exact fun hend => hended ⟨f, hf, hend⟩
    obtain ⟨f, hf⟩ := exists_late hsome hnobody hover
    refine List.ne_nil_of_mem
      (a := ⟨f.job, .expired f.start t.round.now⟩) ?_
    simp only [written, List.mem_append]
    exact .inr (List.mem_map.mpr ⟨f, hf, rfl⟩)

/-- So it leaves less to do than there was. -/
theorem after_load_lt (hsome : t.waiting.pending ≠ [])
    (hreturns : t.Returns limit) :
    (t.after limit).load < t.before.load := by
  have hwritten := List.length_pos_iff.mpr (written_ne_nil hsome hreturns)
  have hload := t.after_load limit
  omega

/-- Giving out jobs is no work done, but none is added either. -/
theorem waiting_load_le (t : Turn) : t.waiting.load ≤ t.before.load := by
  have hjobs := t.waiting_jobs.length_eq
  rw [Pool.jobs_length, Pool.jobs_length, t.submitted.entries,
    List.length_append] at hjobs
  omega

end Turn

-- ================================================================ one pool

namespace Pool

variable {workers count : Nat} {limit : Option Nat}
  {rounds rest : List Round} {queue : List Job} {p q : Pool}
  {pools : List Pool}

/-- A pool whose waits return ends, and it has used up a round for each
job that it is done with, and at most one more. -/
theorem work_ends_of_returns
    (hreturns : ∀ t ∈ turns limit rounds p,
      t.waiting.pending ≠ [] → t.Returns limit)
    (hrounds : p.load < rounds.length) :
    ∃ q rest, work limit rounds p = some (q, rest)
      ∧ rounds.length + q.load ≤ rest.length + p.load + 1 := by
  induction rounds, p using run_induction limit with
  | idle hidle => exact ⟨_, _, work_idle hidle, by omega⟩
  | cut hidle => exact absurd hrounds (Nat.not_lt_zero _)
  | @stuck r rounds p hidle hnone =>
      have hload : _ ≤ p.load := Turn.waiting_load_le ⟨p, r⟩
      refine ⟨_, _, work_stuck hidle hnone, ?_⟩
      rw [List.length_cons]
      omega
  | @next r rounds p hidle hsome ih =>
      rw [turns_next hidle hsome, List.forall_mem_cons] at hreturns
      rw [List.length_cons] at hrounds
      have hless : _ < p.load :=
        Turn.after_load_lt hsome (hreturns.1 hsome)
      obtain ⟨q, rest, hwork, hlength⟩ := ih hreturns.2 (by omega)
      refine ⟨q, rest, (work_next hidle hsome).trans hwork, ?_⟩
      rw [List.length_cons]
      omega

/-- A pool that leaves jobs behind has reported one as out of time for
each of its workers. -/
theorem work_expirations
    (h : work limit rounds (fresh workers queue) = some (q, rest))
    (hqueue : q.queue ≠ []) : q.expirations = workers := by
  obtain ⟨hbalanced, hworkers⟩ :=
    (reaches_of_work h).balanced (fresh_balanced workers queue)
  have hcapacity := work_capacity h hqueue
  have hbooks := hbalanced.workers
  rw [hworkers, hcapacity, Nat.zero_add] at hbooks
  exact hbooks

/-- What such a pool leaves behind is less than it was given by all
those. -/
theorem work_queue_add_workers_le
    (h : work limit rounds (fresh workers queue) = some (q, rest))
    (hqueue : q.queue ≠ []) :
    q.queue.length + workers ≤ queue.length := by
  have hexpired : q.expirations ≤ q.entries.length := List.countP_le_length
  rw [work_expirations h hqueue] at hexpired
  have hjobs := (work_jobs h).length_eq
  rw [jobs_length, jobs_length, load, work_pending h] at hjobs
  simp only [fresh, load, List.length_nil, Nat.add_zero] at hjobs
  omega

-- =============================================================== all pools

/-- Every pool takes jobs off the queue. -/
theorem isChain_queues (hworkers : 0 < workers)
    (h : workAll workers limit count queue rounds = some pools) :
    (queue :: pools.map (·.queue)).IsChain
      fun before after => after.length < before.length := by
  refine batch_induction (motive := fun _ queue _ pools =>
    (queue :: pools.map (·.queue)).IsChain
      fun before after => after.length < before.length) ?_ ?_ h
  · intro count rounds
    exact .singleton _
  · intro count j queue rounds p rest others hwork _ ih
    have hless := work_fresh_queue_lt hworkers hwork
    exact .cons_cons (Nat.lt_succ_of_le hless) ih

/-- Every pool but the last has lost all its workers, each to a job that
it has reported as out of time. -/
theorem expirations_of_mem_dropLast
    (h : workAll workers limit count queue rounds = some pools) :
    ∀ p ∈ pools.dropLast, p.expirations = workers := by
  refine batch_induction (motive := fun _ _ _ pools =>
    ∀ p ∈ pools.dropLast, p.expirations = workers) ?_ ?_ h
  · intro count rounds p hp
    cases hp
  · intro count j queue rounds p rest others hwork hothers ih q hq
    cases others with
    | nil => cases hq
    | cons next others =>
        rw [List.dropLast_cons_cons] at hq
        rcases List.mem_cons.mp hq with rfl | hq
        · refine work_expirations hwork fun hnil => ?_
          rw [hnil, workAll] at hothers
          cases hothers
        · exact ih q hq

/-- Taking away a job for each worker saves a pool. -/
theorem ceilDiv_succ_le {m n : Nat} (hworkers : 0 < workers)
    (h : m + workers ≤ n) : m ⌈/⌉ workers + 1 ≤ n ⌈/⌉ workers := by
  rw [Nat.ceilDiv_eq_add_pred_div, Nat.ceilDiv_eq_add_pred_div,
    ← Nat.add_div_right _ hworkers]
  exact Nat.div_le_div_right (by omega)

/-- Pools whose waits return come to an end, and are no more than it takes
to lose all workers of each on all jobs. -/
theorem workAll_ends (hworkers : 0 < workers)
    (hreturns : ∀ t ∈ turnsAll workers limit count queue rounds,
      t.waiting.pending ≠ [] → t.Returns limit)
    (hcount : queue.length ⌈/⌉ workers ≤ count)
    (hrounds : queue.length + queue.length ⌈/⌉ workers ≤ rounds.length) :
    ∃ pools, workAll workers limit count queue rounds = some pools
      ∧ pools.length ≤ queue.length ⌈/⌉ workers := by
  induction count generalizing queue rounds with
  | zero =>
      have hnone := (ceilDiv_le_iff_le_mul hworkers).mp hcount
      rw [Nat.mul_zero, Nat.le_zero, List.length_eq_zero_iff] at hnone
      rw [hnone]
      exact ⟨[], rfl, Nat.zero_le _⟩
  | succ count ih =>
      cases queue with
      | nil => exact ⟨[], rfl, Nat.zero_le _⟩
      | cons j queue =>
          have hone : 1 ≤ (j :: queue).length ⌈/⌉ workers := by
            by_contra hzero
            have := (ceilDiv_le_iff_le_mul hworkers).mp
              (Nat.le_of_lt_succ (Nat.lt_of_not_le hzero))
            simp at this
          have hload : (fresh workers (j :: queue)).load
              = (j :: queue).length := rfl
          obtain ⟨p, rest, hwork, hlength⟩ := work_ends_of_returns
            (fun t ht => hreturns t (List.mem_append_left _ ht))
            (by rw [hload]; omega)
          rw [turnsAll_cons hwork] at hreturns
          rw [hload, load, work_pending hwork, List.length_nil,
            Nat.add_zero] at hlength
          -- what is left is paid for by the rounds and the pools that are
          have hleft : p.queue.length ⌈/⌉ workers + 1
              ≤ (j :: queue).length ⌈/⌉ workers := by
            by_cases hqueue : p.queue = []
            · rw [hqueue, List.length_nil, zero_ceilDiv]
              exact hone
            · exact ceilDiv_succ_le hworkers
                (work_queue_add_workers_le hwork hqueue)
          obtain ⟨others, hothers, hfew⟩ :=
            ih (fun t ht => hreturns t (List.mem_append_right _ ht))
              (by omega) (by omega)
          refine ⟨p :: others, ?_, ?_⟩
          · rw [workAll, hwork]
            simp only [hothers, Option.map_some]
          · rw [List.length_cons]
            omega

end Pool

-- =============================================================== the batch

namespace Batch

/-- A batch comes to its end, whatever the order in which things happen,
if its waits return. Every turn that waits leaves less to do than there
was; every pool takes jobs off the queue, and every pool but the last has
reported as many jobs as out of time as it has workers. So there are no
more pools than `n ⌈/⌉ w`, and it takes no more rounds than there are
jobs and pools. -/
theorem pooled_ends_when_waits_return (settings : ExtractionSettings)
    (limit : Option Nat) (rounds : List Round) (paths : List String)
    (hpaths : paths ≠ []) (hworkers : 1 ≤ settings.maxWorkers)
    (hreturns : ∀ t ∈ Pool.turnsAll (workersFor settings paths.length) limit
        paths.length (Job.ofPaths paths) rounds,
      t.waiting.pending ≠ [] → t.Returns limit)
    (hrounds : paths.length
        + paths.length ⌈/⌉ workersFor settings paths.length
      ≤ rounds.length) :
    (∀ t ∈ Pool.turnsAll (workersFor settings paths.length) limit
        paths.length (Job.ofPaths paths) rounds,
      t.waiting.pending ≠ [] → (t.after limit).load < t.before.load)
    ∧ ∃ pools done,
      Pool.workAll (workersFor settings paths.length) limit paths.length
          (Job.ofPaths paths) rounds = some pools
      ∧ pooled settings limit rounds paths = some done
      ∧ ((Job.ofPaths paths :: pools.map (·.queue)).IsChain
        fun before after => after.length < before.length)
      ∧ (∀ p ∈ pools.dropLast,
        p.expirations = workersFor settings paths.length)
      ∧ pools.length ≤ paths.length ⌈/⌉ workersFor settings paths.length := by
  have hsome : 0 < paths.length := List.length_pos_iff.mpr hpaths
  have hpositive : 0 < workersFor settings paths.length := by
    unfold workersFor
    omega
  have hjobs : (Job.ofPaths paths).length = paths.length :=
    List.length_mapIdx
  have hcount : paths.length ⌈/⌉ workersFor settings paths.length
      ≤ paths.length :=
    (ceilDiv_le_iff_le_mul hpositive).mpr (Nat.le_mul_of_pos_left _ hpositive)
  obtain ⟨pools, hpools, hfew⟩ := Pool.workAll_ends hpositive hreturns
    (by rw [hjobs]; exact hcount) (by rw [hjobs]; exact hrounds)
  rw [hjobs] at hfew
  refine ⟨fun t ht hwaits => Turn.after_load_lt hwaits (hreturns t ht hwaits),
    pools, _, hpools, by rw [pooled, hpools]; rfl,
    Pool.isChain_queues hpositive hpools,
    Pool.expirations_of_mem_dropLast hpools, hfew⟩

/-- Four jobs and two workers, with rounds to spare: in every turn of
`lossyRounds` that waits somebody has ended or the time of the oldest
flight is over. Two pools do, and the first has lost both its workers. -/
theorem pooled_ends_under_lossyRounds :
    (∀ t ∈ Pool.turnsAll 2 (some 5) 4 (Job.ofPaths ["a", "b", "a", "c"])
        (lossyRounds ++ lossyRounds),
      t.waiting.pending ≠ [] → t.Returns (some 5))
    ∧ ∃ pools done,
      Pool.workAll 2 (some 5) 4 (Job.ofPaths ["a", "b", "a", "c"])
          (lossyRounds ++ lossyRounds) = some pools
      ∧ pooled { maxWorkers := 2 } (some 5) (lossyRounds ++ lossyRounds)
          ["a", "b", "a", "c"] = some done
      ∧ pools.length = 2 ∧ (∀ p ∈ pools.dropLast, p.expirations = 2) := by
  have hreturns : ∀ t ∈ Pool.turnsAll 2 (some 5) 4
      (Job.ofPaths ["a", "b", "a", "c"]) (lossyRounds ++ lossyRounds),
      t.waiting.pending ≠ [] → t.Returns (some 5) := by
    decide
  obtain ⟨-, pools, done, hpools, hdone, -, hexpired, -⟩ :=
    pooled_ends_when_waits_return { maxWorkers := 2 } (some 5)
      (lossyRounds ++ lossyRounds) ["a", "b", "a", "c"] nofun
      (by decide) hreturns (by decide)
  refine ⟨hreturns, pools, done, hpools, hdone, ?_, hexpired⟩
  have hlength : (Pool.workAll 2 (some 5) 4
      (Job.ofPaths ["a", "b", "a", "c"]) (lossyRounds ++ lossyRounds)).map
        List.length = some 2 := rfl
  rw [← Option.some_inj, ← hlength]
  exact (congrArg (Option.map List.length) hpools).symm

end Batch

end Outline
