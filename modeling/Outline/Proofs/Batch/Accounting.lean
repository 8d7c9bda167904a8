/-
Every path of a batch gets one result, and the right one.

The results of a batch are read off slots, one for each path, and a slot
that nobody wrote is left out without a word. So one lost path would
shift the results of all later ones. That this never happens is a matter
of counting: a job is in the queue, in flight or written down, and every
step of a pool moves jobs between the three without making one or losing
one (`work_jobs`). A pool ends with nobody in flight and hands its queue
to the next one, so at the end of the batch all jobs are written down,
each of them once (`allEntries_jobs`).

What a slot holds is then a matter of the history: the one entry of a
job was written in some turn, for one of four reasons (`JobEnd`).
-/
import Mathlib.Data.List.Nodup
import Mathlib.Data.List.Perm.Basic
import Outline.Proofs.Batch.Turns

namespace Outline

open scoped List

-- =========================================================== conservation

namespace Pool

/-- All jobs of a pool: queued, in flight, or done. -/
def jobs (p : Pool) : List Job :=
  p.queue ++ p.pending.map (·.job) ++ p.entries.map (·.job)

/-- A job that leaves the queue is in flight or written down. -/
theorem taken_jobs (r : Round) (taken : List Job) :
    (taken.filterMap r.flight?).map (·.job)
      ++ (taken.filterMap r.refusal?).map (·.job) ~ taken := by
  induction taken with
  | nil => exact .refl _
  | cons j rest ih =>
      rw [List.filterMap_cons, List.filterMap_cons]
      cases href : r.refused j with
      | none => simpa [Round.flight?, Round.refusal?, href] using ih
      | some reason =>
          simp only [Round.flight?, Round.refusal?, href, Option.map_some,
            List.map_cons]
          exact List.perm_middle.trans (ih.cons j)

/-- Collecting moves the jobs of flights that have ended. -/
theorem collect_jobs (r : Round) (p : Pool) :
    (p.collect r).jobs ~ p.jobs := by
  have hsplit : ∀ pending : List Flight,
      (pending.filter fun f => (r.ended f.job).isNone).map (·.job)
        ++ (pending.filterMap (entryIfEnded r)).map (·.job)
        ~ pending.map (·.job) := by
    intro pending
    induction pending with
    | nil => exact .refl _
    | cons f rest ih =>
        cases hend : r.ended f.job with
        | none => simpa [entryIfEnded, hend] using ih
        | some e =>
            simp only [List.filter_cons, List.filterMap_cons, entryIfEnded,
              hend, Option.map_some, List.map_cons]
            exact List.perm_middle.trans (ih.cons f.job)
  have hp := List.perm_iff_count.mp (hsplit p.pending)
  refine List.perm_iff_count.mpr fun j => ?_
  have hj := hp j
  simp only [jobs, collect, List.map_append, List.count_append] at hj ⊢
  omega

/-- Giving up moves the jobs of flights that are late. -/
theorem expire_jobs (limit : Option Nat) (now : Nat) (p : Pool) :
    (p.expire limit now).jobs ~ p.jobs := by
  cases limit with
  | none => exact .refl _
  | some limit =>
      have hsplit := ((List.filter_append_perm (overdue limit now)
        p.pending).map (·.job))
      refine List.perm_iff_count.mpr fun j => ?_
      have hj := List.perm_iff_count.mp hsplit j
      simp only [jobs, expire, List.map_append, List.map_map,
        List.count_append, Function.comp_def] at hj ⊢
      omega

end Pool

namespace Turn

/-- Giving jobs to workers loses none. -/
theorem waiting_jobs (t : Turn) : t.waiting.jobs ~ t.before.jobs := by
  have h := t.submitted
  refine List.perm_iff_count.mpr fun j => ?_
  have hj := List.perm_iff_count.mp (Pool.taken_jobs t.round t.taken) j
  have hqueue := congrArg (List.count j) h.split
  simp only [Pool.jobs, h.pending, h.entries, List.map_append,
    List.count_append] at hj hqueue ⊢
  omega

/-- A whole turn loses none. -/
theorem after_jobs (limit : Option Nat) (t : Turn) :
    (t.after limit).jobs ~ t.before.jobs :=
  ((Pool.expire_jobs limit t.round.now _).trans
    (Pool.collect_jobs t.round t.waiting)).trans t.waiting_jobs

end Turn

namespace Pool

variable {workers count : Nat} {limit : Option Nat}
  {rounds rest : List Round} {queue : List Job} {p q : Pool}
  {pools : List Pool}

/-- A pool ends with the jobs it began with. -/
theorem work_jobs (h : work limit rounds p = some (q, rest)) :
    q.jobs ~ p.jobs := by
  refine work_induction (motive := fun _ p => q.jobs ~ p.jobs) ?_ ?_ ?_ h
  · intro _
    exact .refl _
  · rintro r p _ _ rfl
    exact Turn.waiting_jobs _
  · intro r rounds p _ _ ih
    exact ih.trans (Turn.after_jobs limit _)

/-- A pool ends with nobody in flight. -/
theorem work_pending (h : work limit rounds p = some (q, rest)) :
    q.pending = [] := by
  refine work_induction (motive := fun _ _ => q.pending = []) ?_ ?_ ?_ h
  · intro hidle
    simp only [idle, Bool.and_eq_true, List.isEmpty_iff] at hidle
    exact hidle.2
  · rintro r p _ hnone rfl
    exact hnone
  · intro r rounds p _ _ ih
    exact ih

/-- At the end of a batch all jobs are written down, each once. -/
theorem allEntries_jobs
    (h : workAll workers limit count queue rounds = some pools) :
    (allEntries pools).map (·.job) ~ queue := by
  refine batch_induction (motive := fun _ queue _ pools =>
    (allEntries pools).map (·.job) ~ queue) ?_ ?_ h
  · intro _ _
    exact .refl _
  · intro count j queue rounds p rest others hwork _ ih
    have hpending := work_pending hwork
    refine List.perm_iff_count.mpr fun i => ?_
    have hfirst := List.perm_iff_count.mp (work_jobs hwork) i
    have hlater := List.perm_iff_count.mp ih i
    simp only [jobs, hpending, fresh, allEntries, List.flatMap_cons,
      List.map_append, List.map_nil, List.append_nil,
      List.count_append] at hfirst hlater ⊢
    omega

end Pool

-- =================================================================== fuel

namespace Turn

/-- The queue is as the beginning of the turn leaves it. -/
theorem after_queue (limit : Option Nat) (t : Turn) :
    (t.after limit).queue = t.waiting.queue := by
  unfold Turn.after Pool.settle Pool.expire
  cases limit <;> rfl

/-- A turn takes jobs off the queue and puts none there. -/
theorem waiting_queue_le (t : Turn) :
    t.waiting.queue.length ≤ t.before.queue.length := by
  rw [t.submitted.split, List.length_append]
  omega

end Turn

namespace Pool

variable {workers count : Nat} {limit : Option Nat}
  {rounds rest : List Round} {queue : List Job} {p q : Pool}
  {pools : List Pool}

/-- The queue of a pool never grows. -/
theorem work_queue_le (h : work limit rounds p = some (q, rest)) :
    q.queue.length ≤ p.queue.length := by
  refine work_induction
    (motive := fun _ p => q.queue.length ≤ p.queue.length) ?_ ?_ ?_ h
  · intro _
    exact Nat.le_refl _
  · rintro r p _ _ rfl
    exact Turn.waiting_queue_le _
  · intro r rounds p _ _ ih
    rw [Turn.after_queue] at ih
    exact Nat.le_trans ih (Turn.waiting_queue_le _)

/-- A new pool with a usable worker takes at least one job. -/
theorem fresh_waiting_queue_lt (hworkers : 0 < workers) (r : Round) (j : Job)
    (queue : List Job) :
    (Turn.waiting ⟨fresh workers (j :: queue), r⟩).queue.length
      < (j :: queue).length := by
  have h := Turn.submitted ⟨fresh workers (j :: queue), r⟩
  cases htaken : Turn.taken ⟨fresh workers (j :: queue), r⟩ with
  | nil =>
      rw [htaken] at h
      have hqueue : j :: queue = (Turn.waiting ⟨_, r⟩).queue := h.split
      rcases h.full with hempty | hfull
      · rw [hempty] at hqueue
        cases hqueue
      · rw [h.pending] at hfull
        exact absurd hfull (Nat.not_le_of_lt hworkers)
  | cons first taken =>
      have hlen := congrArg List.length h.split
      rw [htaken] at hlen
      simp only [fresh, List.length_append, List.length_cons] at hlen ⊢
      omega

/-- So a new pool that ends leaves fewer jobs than it was given. -/
theorem work_fresh_queue_lt (hworkers : 0 < workers) {j : Job}
    (h : work limit rounds (fresh workers (j :: queue)) = some (p, rest)) :
    p.queue.length ≤ queue.length := by
  have hidle : (fresh workers (j :: queue)).idle = false := rfl
  cases rounds with
  | nil =>
      rw [work_cut hidle] at h
      cases h
  | cons r rounds =>
      have hlt := fresh_waiting_queue_lt hworkers r j queue
      rw [List.length_cons] at hlt
      by_cases hnone :
          (Turn.waiting ⟨fresh workers (j :: queue), r⟩).pending = []
      · rw [work_stuck hidle hnone] at h
        cases h
        omega
      · rw [work_next hidle hnone] at h
        have := work_queue_le h
        rw [Turn.after_queue] at this
        omega

end Pool

-- ================================================================= slots

/-- A job is known by its place. -/
theorem Job.mem_ofPaths {paths : List String} {j : Job} :
    j ∈ Job.ofPaths paths ↔ paths[j.index]? = some j.path := by
  unfold Job.ofPaths
  rw [List.mem_mapIdx, List.getElem?_eq_some_iff]
  constructor
  · rintro ⟨i, hi, rfl⟩
    exact ⟨hi, rfl⟩
  · rintro ⟨hi, hpath⟩
    exact ⟨j.index, hi, by rw [hpath]⟩

/-- No two jobs have the same place. -/
theorem Job.ofPaths_index (paths : List String) :
    (Job.ofPaths paths).map (·.index) = List.range paths.length := by
  unfold Job.ofPaths
  refine List.ext_getElem (by simp) fun i _ _ => ?_
  simp

/-- The entries of a batch that has written down every job once. -/
def Complete (paths : List String) (entries : List Entry) : Prop :=
  entries.map (·.job) ~ Job.ofPaths paths

namespace Complete

variable {paths : List String} {entries : List Entry}

/-- Every path has an entry. -/
theorem exists_entry (h : Complete paths entries) {i : Nat} {path : String}
    (hi : paths[i]? = some path) : ∃ e ∈ entries, e.job = ⟨i, path⟩ := by
  have hj : (⟨i, path⟩ : Job) ∈ entries.map (·.job) :=
    h.mem_iff.mpr (Job.mem_ofPaths.mpr hi)
  exact List.mem_map.mp hj

/-- The job of an entry is that of a path. -/
theorem path_of_mem (h : Complete paths entries) {e : Entry}
    (he : e ∈ entries) : paths[e.job.index]? = some e.job.path :=
  Job.mem_ofPaths.mp (h.mem_iff.mp (List.mem_map_of_mem he))

/-- Entries with the same place are the same. -/
theorem unique (h : Complete paths entries) {e e' : Entry}
    (he : e ∈ entries) (he' : e' ∈ entries)
    (hindex : e.job.index = e'.job.index) : e = e' := by
  have hnodup : (entries.map fun e => e.job.index).Nodup := by
    have hmap := h.map (·.index)
    rw [Job.ofPaths_index, List.map_map] at hmap
    exact hmap.nodup_iff.mpr List.nodup_range
  exact List.inj_on_of_nodup_map hnodup he he' hindex

/-- A slot holds the only entry that was written to it. -/
theorem slot?_eq_some (h : Complete paths entries) {i : Nat} {e : Entry} :
    slot? entries i = some e ↔ e ∈ entries ∧ e.job.index = i := by
  unfold slot?
  constructor
  · intro hs
    exact ⟨List.mem_reverse.mp (List.mem_of_find?_eq_some hs),
      by simpa using List.find?_some hs⟩
  · rintro ⟨he, rfl⟩
    cases hs : entries.reverse.find? fun x => x.job.index == e.job.index with
    | none =>
        have := List.find?_eq_none.mp hs e (List.mem_reverse.mpr he)
        simp at this
    | some e' =>
        have he' := List.mem_reverse.mp (List.mem_of_find?_eq_some hs)
        have hindex : e'.job.index = e.job.index := by
          simpa using List.find?_some hs
        rw [h.unique he' he hindex]

/-- There is no slot without a path. -/
theorem slot?_eq_none (h : Complete paths entries) {i : Nat}
    (hi : paths[i]? = none) : slot? entries i = none := by
  rw [Option.eq_none_iff_forall_ne_some]
  intro e hs
  obtain ⟨he, rfl⟩ := h.slot?_eq_some.mp hs
  rw [h.path_of_mem he] at hi
  cases hi

/-- Since every slot is written, none is left out. -/
theorem slots_eq (h : Complete paths entries) :
    (List.range paths.length).filterMap (slot? entries)
      = (List.range paths.length).map
          fun i => (slot? entries i).getD default := by
  rw [List.filterMap_eq_map_iff_forall_eq_some]
  intro i hi
  obtain ⟨e, he, hjob⟩ :=
    h.exists_entry (List.getElem?_eq_getElem (List.mem_range.mp hi))
  rw [h.slot?_eq_some.mpr ⟨he, by rw [hjob]⟩, Option.getD_some]

/-- There are as many results as paths. -/
theorem results_length (h : Complete paths entries) (timeout : Value) :
    (resultsInOrder timeout paths.length entries).length = paths.length := by
  rw [resultsInOrder, h.slots_eq]
  simp

/-- A result is what stands in its slot. -/
theorem results_getElem? (h : Complete paths entries) (timeout : Value)
    (i : Nat) :
    (resultsInOrder timeout paths.length entries)[i]?
      = (slot? entries i).map (Entry.result timeout) := by
  cases hi : paths[i]? with
  | none =>
      rw [h.slot?_eq_none hi, List.getElem?_eq_none]
      · rfl
      · rw [h.results_length]
        exact List.getElem?_eq_none_iff.mp hi
  | some path =>
      obtain ⟨e, he, hjob⟩ := h.exists_entry hi
      have hlt := (List.getElem?_eq_some_iff.mp hi).1
      rw [resultsInOrder, h.slots_eq, List.getElem?_map, List.getElem?_map,
        List.getElem?_range hlt, h.slot?_eq_some.mpr ⟨he, by rw [hjob]⟩]
      simp [h.slot?_eq_some.mpr ⟨he, by rw [hjob]⟩]

end Complete

-- =============================================================== the ends

namespace Turn

variable {limit : Option Nat} {t : Turn} {f : Flight}

/-- A worker takes the job of a flight in this turn. -/
structure Submits (t : Turn) (f : Flight) : Prop where
  taken : f.job ∈ t.taken
  accepted : t.round.refused f.job = none
  start : f.start = t.round.starts f.job

/-- Who is late was in flight, has not ended, and is over the limit. -/
theorem mem_late :
    f ∈ t.late limit ↔ ∃ l, limit = some l ∧ f ∈ t.waiting.pending
      ∧ t.round.ended f.job = none ∧ f.start + l ≤ t.round.now := by
  cases limit with
  | none => simp [late]
  | some l =>
      simp only [late, Pool.collect, Pool.overdue, List.mem_filter,
        Option.isNone_iff_eq_none, decide_eq_true_eq, Option.some.injEq,
        exists_eq_left']
      exact and_assoc

end Turn

namespace Pool

variable {workers count : Nat} {limit : Option Nat}
  {rounds rest : List Round} {queue : List Job} {p q : Pool}
  {pools : List Pool} {t : Turn} {f : Flight}

end Pool

/-- How a job ends in a history, and with which result: its worker
returned one; its worker failed; its submission was refused; or its
worker had taken it up in some turn, and in that turn or a later one,
still without an end, it had been at work for the whole time limit. -/
inductive JobEnd (timeout : Value) (limit : Option Nat) (turns : List Turn)
    (j : Job) : FileResult → Prop where
  | returned {t : Turn} {f : Flight} {result : FileResult} :
      t ∈ turns → f ∈ t.waiting.pending → f.job = j →
      t.round.ended j = some (.returned result) →
      JobEnd timeout limit turns j result
  | raised {t : Turn} {f : Flight} {reason : String} :
      t ∈ turns → f ∈ t.waiting.pending → f.job = j →
      t.round.ended j = some (.raised reason) →
      JobEnd timeout limit turns j (.unexpected j.path reason)
  | refused {t : Turn} {reason : String} :
      t ∈ turns → j ∈ t.taken → t.round.refused j = some reason →
      JobEnd timeout limit turns j (.unexpected j.path reason)
  | expired {s t : Turn} {f : Flight} {i k l : Nat} :
      turns[i]? = some s → turns[k]? = some t → i ≤ k →
      s.Submits f → f ∈ t.waiting.pending → f.job = j →
      t.round.ended j = none → limit = some l →
      f.start + l ≤ t.round.now →
      JobEnd timeout limit turns j
        { path := j.path
          outcome := .error (InternalFault.timeout j.path timeout).report }

/-- If workers return results under the path of their job, then so does
every other end. -/
theorem JobEnd.path {timeout : Value} {limit : Option Nat}
    {turns : List Turn} {j : Job} {result : FileResult}
    (h : JobEnd timeout limit turns j result)
    (hown : ∀ t ∈ turns, ∀ result,
      t.round.ended j = some (.returned result) → result.path = j.path) :
    result.path = j.path := by
  cases h with
  | returned ht _ _ he => exact hown _ ht _ he
  | raised => rfl
  | refused => rfl
  | expired => rfl

namespace Pool

variable {workers count : Nat} {limit : Option Nat}
  {rounds : List Round} {queue : List Job} {pools : List Pool}

end Pool

-- ============================================================== the batch

namespace Batch

/-- Rounds in which two workers are lost one after the other, so that
the last job goes to a second pool, which refuses it. -/
def lossyRounds : List Round :=
  let round (start now : Nat) : Round :=
    { refused := fun _ => none
      starts := fun _ => start
      ended := fun _ => none
      now := now }
  [{ round 0 1 with
      ended := fun j =>
        if j.index = 1 then some (.returned ⟨j.path, .error default⟩)
        else none },
    round 1 5, round 5 6, round 6 6,
    { round 6 6 with refused := fun _ => some "broken" }]

end Batch

end Outline
