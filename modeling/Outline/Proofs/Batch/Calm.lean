/-
Batches in which nothing goes wrong.

A batch is calm if no submission is refused, workers report what they
should, nobody runs out of time, and the rounds outlast the work. The
last point has a price in rounds: the load of a pool, that is the number
of jobs which are not yet written down, drops by what a turn writes
(`after_load`). So one round for each job is enough, besides those in
which nothing is written.

A calm batch needs one pool only, and its results are the ends of its
jobs, in the order of the paths and whatever the order in which they
ended (`pooled_of_calm`).
-/
import Outline.Proofs.Batch.Accounting

namespace Outline

open scoped List

-- ================================================================== load

namespace Pool

/-- The number of jobs that are not written down yet. -/
def load (p : Pool) : Nat := p.queue.length + p.pending.length

theorem jobs_length (p : Pool) : p.jobs.length = p.load + p.entries.length := by
  simp only [jobs, load, List.length_append, List.length_map]

end Pool

namespace Turn

/-- Whether nothing is written down in a turn. -/
def fruitless (limit : Option Nat) (t : Turn) : Bool :=
  (t.written limit).isEmpty

/-- What is written down in a turn is off the load. -/
theorem after_load (limit : Option Nat) (t : Turn) :
    (t.after limit).load + (t.written limit).length = t.before.load := by
  have hjobs := (t.after_jobs limit).length_eq
  rw [Pool.jobs_length, Pool.jobs_length, t.after_entries,
    List.length_append] at hjobs
  omega

end Turn

namespace Pool

variable {limit : Option Nat} {rounds rest : List Round} {p q : Pool}

/-- A pool ends if it has a round for each job of its load, besides
those in which nothing is written down. -/
theorem work_ends
    (h : p.load + ((turns limit rounds p).filter (Turn.fruitless limit)).length
      ≤ rounds.length) :
    ∃ q rest, work limit rounds p = some (q, rest) := by
  induction rounds, p using run_induction limit with
  | idle hidle => exact ⟨_, _, work_idle hidle⟩
  | @cut p hidle =>
      -- without rounds there is no load, so nothing was left to do
      have hload : p.load = 0 := by
        simp only [List.length_nil] at h
        omega
      simp only [load, Nat.add_eq_zero_iff, List.length_eq_zero_iff] at hload
      simp [idle, hload] at hidle
  | stuck hidle hnone => exact ⟨_, _, work_stuck hidle hnone⟩
  | @next r rounds p hidle hsome ih =>
      rw [work_next hidle hsome]
      refine ih ?_
      have hload : _ = p.load := Turn.after_load limit ⟨p, r⟩
      rw [turns_next hidle hsome, List.filter_cons, List.length_cons] at h
      split at h
      next hfruitless =>
        rw [List.length_cons, ← hload] at h
        omega
      next hfruit =>
        have hwritten : 0 < (Turn.written limit ⟨p, r⟩).length := by
          rw [List.length_pos_iff]
          simpa [Turn.fruitless] using hfruit
        rw [← hload] at h
        omega

end Pool

-- ================================================================== calm

/-- A batch in which nothing goes wrong, whatever the order in which its
jobs end: `ending` is how they do. -/
structure Calm (workers : Nat) (limit : Option Nat)
    (ending : Job → Option Ending) (queue : List Job) (rounds : List Round) :
    Prop where
  /-- No submission is refused. -/
  accepted : ∀ r ∈ rounds, ∀ j, r.refused j = none
  /-- A worker ends with what its job ends with. -/
  honest : ∀ r ∈ rounds, ∀ j e, r.ended j = some e → ending j = some e
  /-- Nobody runs out of time. -/
  inTime : ∀ t ∈ Pool.turns limit rounds (.fresh workers queue),
    t.late limit = []
  /-- There is a round for every job, besides those in which nobody
  ends. -/
  lasting : queue.length + ((Pool.turns limit rounds
    (.fresh workers queue)).filter (Turn.fruitless limit)).length
      ≤ rounds.length

/-- The workers of late flights are lost. -/
theorem Turn.after_capacity (limit : Option Nat) (t : Turn) :
    (t.after limit).capacity = t.before.capacity - (t.late limit).length := by
  rw [← t.submitted.capacity]
  unfold Turn.after Turn.late Pool.settle Pool.expire
  cases limit <;> rfl

namespace Pool

variable {limit : Option Nat} {rounds rest : List Round} {p q : Pool}

/-- If there are workers and nobody is ever late, then a pool ends with
an empty queue: it is never short of workers. -/
theorem work_queue_eq_nil (h : work limit rounds p = some (q, rest))
    (hlate : ∀ t ∈ turns limit rounds p, t.late limit = [])
    (hcapacity : 0 < p.capacity) : q.queue = [] := by
  revert hlate hcapacity
  refine work_induction (motive := fun rounds p =>
    (∀ t ∈ turns limit rounds p, t.late limit = []) → 0 < p.capacity →
      q.queue = []) ?_ ?_ ?_ h
  · intro hidle _ _
    simp only [idle, Bool.and_eq_true, List.isEmpty_iff] at hidle
    exact hidle.1
  · rintro r p _ hnone rfl _ hcapacity
    refine (Turn.submitted _).full.resolve_right ?_
    rw [hnone]
    exact Nat.not_le_of_lt hcapacity
  · intro r rounds p hidle hsome ih hlate hcapacity
    rw [turns_next hidle hsome] at hlate
    refine ih (fun t ht => hlate t (List.mem_cons_of_mem _ ht)) ?_
    rw [Turn.after_capacity, hlate ⟨p, r⟩ (List.mem_cons_self ..)]
    exact hcapacity

end Pool

namespace Calm

variable {workers : Nat} {limit : Option Nat}
  {ending : Job → Option Ending} {queue : List Job} {rounds : List Round}

/-- What is written down in a calm turn is how jobs end. -/
theorem outcome_of_mem_written {t : Turn} {e : Entry}
    (h : Calm workers limit ending queue rounds)
    (ht : t ∈ Pool.turns limit rounds (.fresh workers queue))
    (he : e ∈ t.written limit) :
    ∃ x, ending e.job = some x ∧ e.outcome = x.outcome := by
  have hround := Pool.round_mem_of_mem_turns ht
  simp only [Turn.written, Turn.refusals, h.inTime t ht, List.map_nil,
    List.append_nil, List.mem_append, List.mem_filterMap] at he
  rcases he with ⟨j, _, hrefused⟩ | ⟨f, _, hended⟩
  · simp [Round.refusal?, h.accepted _ hround] at hrefused
  · obtain ⟨x, hx, rfl⟩ := Option.map_eq_some_iff.mp hended
    exact ⟨x, h.honest _ hround _ _ hx, rfl⟩

/-- A calm batch with workers ends, with one pool or with none, and what
it has written down is how its jobs end. -/
theorem exists_pools (h : Calm workers limit ending queue rounds)
    (hworkers : 0 < workers) :
    ∃ pools, Pool.workAll workers limit queue.length queue rounds = some pools
      ∧ ∀ e ∈ Pool.allEntries pools,
          ∃ x, ending e.job = some x ∧ e.outcome = x.outcome := by
  cases queue with
  | nil => exact ⟨[], rfl, fun e he => by cases he⟩
  | cons j queue =>
      obtain ⟨q, rest, hwork⟩ :=
        Pool.work_ends (p := .fresh workers (j :: queue)) h.lasting
      have hqueue := Pool.work_queue_eq_nil hwork h.inTime hworkers
      refine ⟨[q], ?_, fun e he => ?_⟩
      · rw [List.length_cons, Pool.workAll, hwork]
        simp [hqueue, Pool.workAll]
      · rw [Pool.allEntries, List.flatMap_singleton,
          Pool.work_entries hwork] at he
        obtain ⟨t, ht, he⟩ := List.mem_flatMap.mp he
        exact h.outcome_of_mem_written ht he

end Calm

namespace Batch

/-- The results of a calm batch are the ends of its jobs, in the order of
the paths. -/
theorem pooled_of_calm {settings : ExtractionSettings} {limit : Option Nat}
    {ending : Job → Option Ending} {rounds : List Round} {paths : List String}
    (h : Calm (workersFor settings paths.length) limit ending
      (Job.ofPaths paths) rounds)
    (hworkers : 0 < workersFor settings paths.length) :
    ∃ done, pooled settings limit rounds paths = some done
      ∧ done.result.length = paths.length
      ∧ ∀ i path, paths[i]? = some path → ∃ x,
          ending ⟨i, path⟩ = some x
          ∧ done.result[i]? = some (Entry.result
              (.ofOption (settings.fileTimeout.map .float))
              ⟨⟨i, path⟩, x.outcome⟩) := by
  obtain ⟨pools, hpools, houtcome⟩ := h.exists_pools hworkers
  have hcomplete : Complete paths (Pool.allEntries pools) :=
    Pool.allEntries_jobs hpools
  have hlength : (Job.ofPaths paths).length = paths.length :=
    List.length_mapIdx
  have hget := hcomplete.results_getElem?
    (.ofOption (settings.fileTimeout.map .float))
  rw [hlength] at hpools
  refine ⟨_, by rw [pooled, hpools]; rfl, hcomplete.results_length _, ?_⟩
  intro i path hi
  obtain ⟨e, he, hjob⟩ := hcomplete.exists_entry hi
  obtain ⟨x, hx, hout⟩ := houtcome e he
  rw [hjob] at hx
  refine ⟨x, hx, ?_⟩
  rw [hget, hcomplete.slot?_eq_some.mpr ⟨he, by rw [hjob]⟩, ← hjob, ← hout]
  rfl

end Batch

-- ================================================================= quick

/-- A round in which all workers do their work: no submission is refused,
and every job that ends has ended. -/
structure Round.Prompt (ending : Job → Option Ending) (r : Round) : Prop where
  accepted : ∀ j, r.refused j = none
  ended : ∀ j, r.ended j = ending j

namespace Turn

variable {limit : Option Nat} {ending : Job → Option Ending} {t : Turn}

/-- In a prompt round of a pool with work and workers, somebody is in
flight. -/
theorem waiting_pending_ne_nil (hprompt : t.round.Prompt ending)
    (hidle : t.before.idle = false) (hcapacity : 0 < t.before.capacity) :
    t.waiting.pending ≠ [] := by
  intro hnone
  have h := t.submitted
  have hpending := h.pending
  rw [hnone] at hpending
  obtain ⟨hbefore, hflights⟩ := List.append_eq_nil_iff.mp hpending.symm
  have htaken : t.taken = [] := by
    cases htaken : t.taken with
    | nil => rfl
    | cons j taken =>
        rw [htaken, List.filterMap_cons] at hflights
        simp [Round.flight?, hprompt.accepted] at hflights
  have hqueue : t.before.queue = [] := by
    rw [h.split, htaken, List.nil_append]
    refine h.full.resolve_right ?_
    rw [hnone]
    exact Nat.not_le_of_lt hcapacity
  simp [Pool.idle, hbefore, hqueue] at hidle

/-- Who is in flight is a job of the pool. -/
theorem job_mem_of_pending {f : Flight} (hf : f ∈ t.waiting.pending) :
    f.job ∈ t.before.jobs := by
  refine t.waiting_jobs.mem_iff.mp ?_
  simp only [Pool.jobs, List.mem_append, List.mem_map]
  exact .inl (.inr ⟨f, hf, rfl⟩)

/-- In a prompt round in which all jobs end nobody is late. -/
theorem late_eq_nil (hprompt : t.round.Prompt ending)
    (hends : ∀ j ∈ t.before.jobs, (ending j).isSome) : t.late limit = [] := by
  refine List.eq_nil_iff_forall_not_mem.mpr fun f hf => ?_
  obtain ⟨_, _, hpending, hended, _⟩ := mem_late.mp hf
  have := hends f.job (job_mem_of_pending hpending)
  rw [← hprompt.ended, hended] at this
  cases this

/-- In a prompt round in which all jobs end something is written down. -/
theorem fruitless_eq_false (hprompt : t.round.Prompt ending)
    (hends : ∀ j ∈ t.before.jobs, (ending j).isSome)
    (hsome : t.waiting.pending ≠ []) : t.fruitless limit = false := by
  obtain ⟨f, hf⟩ := List.exists_mem_of_ne_nil _ hsome
  obtain ⟨x, hx⟩ :=
    Option.isSome_iff_exists.mp (hends f.job (job_mem_of_pending hf))
  rw [← hprompt.ended] at hx
  have hwritten : (⟨f.job, x.outcome⟩ : Entry) ∈ t.written limit := by
    simp only [Turn.written, List.mem_append, List.mem_filterMap]
    exact .inl (.inr ⟨f, hf, by simp [Pool.entryIfEnded, hx]⟩)
  cases hfruit : t.fruitless limit with
  | false => rfl
  | true =>
      rw [Turn.fruitless, List.isEmpty_iff] at hfruit
      rw [hfruit] at hwritten
      cases hwritten

end Turn

namespace Pool

variable {limit : Option Nat} {ending : Job → Option Ending}
  {rounds : List Round} {p : Pool} {t : Turn}

/-- A pool with workers, in prompt rounds and with jobs that all end, has
no late flight and no turn without fruit. -/
theorem turns_of_prompt (hprompt : ∀ r ∈ rounds, r.Prompt ending)
    (hends : ∀ j ∈ p.jobs, (ending j).isSome) (hcapacity : 0 < p.capacity)
    (ht : t ∈ turns limit rounds p) :
    t.late limit = [] ∧ t.fruitless limit = false := by
  induction rounds, p using run_induction limit with
  | idle hidle => simp [turns_idle hidle] at ht
  | cut hidle => simp [turns] at ht
  | @stuck r rounds p hidle hnone =>
      exact absurd hnone (Turn.waiting_pending_ne_nil
        (hprompt r (List.mem_cons_self ..)) hidle hcapacity)
  | @next r rounds p hidle hsome ih =>
      have hfirst := hprompt r (List.mem_cons_self ..)
      have hlate : Turn.late limit ⟨p, r⟩ = [] :=
        Turn.late_eq_nil hfirst hends
      rw [turns_next hidle hsome] at ht
      rcases List.mem_cons.mp ht with rfl | ht
      · exact ⟨hlate, Turn.fruitless_eq_false hfirst hends hsome⟩
      · refine ih (fun r hr => hprompt r (List.mem_cons_of_mem _ hr)) ?_ ?_ ht
        · intro j hj
          exact hends j ((Turn.after_jobs limit ⟨p, r⟩).mem_iff.mp hj)
        · rw [Turn.after_capacity, hlate]
          exact hcapacity

end Pool

/-- Prompt rounds, one for each job, make a calm batch of jobs that all
end. -/
theorem Calm.of_prompt {workers : Nat} {ending : Job → Option Ending}
    {queue : List Job} {rounds : List Round} (limit : Option Nat)
    (hprompt : ∀ r ∈ rounds, r.Prompt ending)
    (hends : ∀ j ∈ queue, (ending j).isSome) (hworkers : 0 < workers)
    (hlength : queue.length ≤ rounds.length) :
    Calm workers limit ending queue rounds := by
  have hturns : ∀ t ∈ Pool.turns limit rounds (.fresh workers queue),
      t.late limit = [] ∧ t.fruitless limit = false := by
    intro t ht
    refine Pool.turns_of_prompt hprompt (fun j hj => hends j ?_) hworkers ht
    simpa [Pool.jobs, Pool.fresh] using hj
  refine ⟨fun r hr j => (hprompt r hr).accepted j,
    fun r hr j e he => (hprompt r hr).ended j ▸ he,
    fun t ht => (hturns t ht).1, ?_⟩
  rw [List.filter_eq_nil_iff.mpr fun t ht => by simp [(hturns t ht).2]]
  exact hlength

namespace Batch

variable {ending : Job → Option Ending} {limit : Option Nat} {jobs : Nat}

/-- The rounds of quick workers are prompt. -/
theorem prompt_of_mem_quickRounds {r : Round}
    (hr : r ∈ quickRounds ending limit jobs) : r.Prompt ending := by
  cases limit with
  | none =>
      rw [quickRounds] at hr
      rw [List.eq_of_mem_replicate hr]
      exact ⟨fun _ => rfl, fun _ => rfl⟩
  | some limit =>
      simp only [quickRounds, List.mem_flatMap, List.mem_append,
        List.mem_singleton] at hr
      obtain ⟨k, _, hr | rfl⟩ := hr
      · rw [List.eq_of_mem_replicate hr]
        exact ⟨fun _ => rfl, fun _ => rfl⟩
      · exact ⟨fun _ => rfl, fun _ => rfl⟩

/-- There is one for each job. -/
theorem le_length_quickRounds :
    jobs ≤ (quickRounds ending limit jobs).length := by
  cases limit with
  | none => simp [quickRounds]
  | some limit =>
      simp only [quickRounds, List.length_flatMap, List.length_append,
        List.length_replicate, List.length_singleton, List.map_const',
        List.length_range, List.sum_replicate_nat]
      exact Nat.le_mul_of_pos_right _ (Nat.succ_pos _)

/-- So they make a calm batch of jobs that all end. -/
theorem calm_quickRounds {workers : Nat} {queue : List Job}
    (limit : Option Nat) (hends : ∀ j ∈ queue, (ending j).isSome)
    (hworkers : 0 < workers) :
    Calm workers limit ending queue
      (quickRounds ending limit queue.length) :=
  .of_prompt limit (fun _ => prompt_of_mem_quickRounds) hends hworkers
    le_length_quickRounds

end Batch

end Outline
