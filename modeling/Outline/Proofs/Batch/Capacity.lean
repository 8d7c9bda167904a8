/-
Every job in flight has a worker of its own.

A pool counts its usable workers instead of looking at them: it hands out
a job while fewer are in flight than it counts, and counts one less when
the time of a job is over. Nothing ties the count to the workers but the
order in which the three loops of a round take turns. So the states of a
pool are taken apart here as far as they go, into single things that
happen (`Happens`): a job is refused or taken, a flight ends, a flight is
given up. Each of them keeps the books balanced (`Happens.balanced`): the
jobs in flight are no more than the usable workers, and these and the
jobs that ran out of time are together all workers.

The loops of a round are made of such things and of nothing else
(`reaches_fill`, `reaches_collect`, `reaches_expire`), so all that a run
goes through is balanced.
-/
import Mathlib.Logic.Relation
import Outline.Proofs.Batch.Accounting

namespace Outline

/-- Whether a job is done with because its time was over. -/
def Outcome.isExpired : Outcome → Bool
  | .expired .. => true
  | _ => false

@[simp] theorem Outcome.isExpired_failed (reason : String) :
    (Outcome.failed reason).isExpired = false := rfl

@[simp] theorem Outcome.isExpired_expired (start now : Nat) :
    (Outcome.expired start now).isExpired = true := rfl

@[simp] theorem Ending.isExpired_outcome (e : Ending) :
    e.outcome.isExpired = false := by
  cases e <;> rfl

namespace Pool

variable {workers : Nat} {limit : Option Nat} {r : Round}
  {rounds rest : List Round} {queue : List Job} {p q : Pool}

-- ============================================================ what happens

/-- The number of jobs that this pool has reported as out of time. -/
def expirations (p : Pool) : Nat :=
  p.entries.countP (·.outcome.isExpired)

/-- One thing that happens to a pool: the next job is refused or taken
while a worker is free, a flight ends, or a flight is given up and its
worker with it. -/
inductive Happens (limit : Option Nat) : Pool → Pool → Prop where
  | refused {p : Pool} {j : Job} {queue : List Job} (reason : String) :
      p.queue = j :: queue → p.pending.length < p.capacity →
      Happens limit p { p with
        queue := queue
        entries := p.entries ++ [⟨j, .failed reason⟩] }
  | taken {p : Pool} {j : Job} {queue : List Job} (start : Nat) :
      p.queue = j :: queue → p.pending.length < p.capacity →
      Happens limit p { p with
        queue := queue
        pending := p.pending ++ [⟨j, start⟩] }
  | ended {p : Pool} {before after : List Flight} {f : Flight}
      (e : Ending) :
      p.pending = before ++ f :: after →
      Happens limit p { p with
        pending := before ++ after
        entries := p.entries ++ [⟨f.job, e.outcome⟩] }
  | expired {p : Pool} {before after : List Flight} {f : Flight}
      {l now : Nat} :
      p.pending = before ++ f :: after → limit = some l →
      overdue l now f = true →
      Happens limit p { p with
        capacity := p.capacity - 1
        pending := before ++ after
        entries := p.entries ++ [⟨f.job, .expired f.start now⟩] }

/-- A pool becomes another one as one thing happens after the other. -/
abbrev Reaches (limit : Option Nat) : Pool → Pool → Prop :=
  Relation.ReflTransGen (Happens limit)

/-- The books of a pool: every job in flight has a usable worker, and a
worker is usable or was lost to a job whose time was over. -/
structure Balanced (p : Pool) : Prop where
  inFlight : p.pending.length ≤ p.capacity
  workers : p.capacity + p.expirations = p.workers

theorem fresh_balanced (workers : Nat) (queue : List Job) :
    (fresh workers queue).Balanced :=
  ⟨Nat.zero_le _, rfl⟩

/-- Whatever happens to a pool, its books stay balanced and its workers
are as many as before. -/
theorem Happens.balanced (h : Happens limit p q) (hp : p.Balanced) :
    q.Balanced ∧ q.workers = p.workers := by
  obtain ⟨hflight, hworkers⟩ := hp
  simp only [expirations] at hworkers
  refine ⟨?_, by cases h <;> rfl⟩
  cases h with
  | refused reason _ _ =>
      refine ⟨hflight, ?_⟩
      simpa [expirations] using hworkers
  | taken start _ hroom =>
      refine ⟨?_, hworkers⟩
      rw [List.length_append]
      exact hroom
  | ended e hpending =>
      rw [hpending, List.length_append, List.length_cons] at hflight
      refine ⟨?_, by simpa [expirations] using hworkers⟩
      simp only [List.length_append]
      omega
  | expired hpending _ _ =>
      -- the flight that is given up shows that there is a worker to lose
      rw [hpending, List.length_append, List.length_cons] at hflight
      constructor
      · simp only [List.length_append]
        omega
      · simp only [expirations, List.countP_append, List.countP_singleton,
          Outcome.isExpired_expired, if_true]
        omega

/-- So a pool with balanced books comes to such pools only. -/
theorem Reaches.balanced (h : Reaches limit p q) (hp : p.Balanced) :
    q.Balanced ∧ q.workers = p.workers := by
  induction h with
  | refl => exact ⟨hp, rfl⟩
  | tail _ hstep ih =>
      obtain ⟨hbalanced, hworkers⟩ := hstep.balanced ih.1
      exact ⟨hbalanced, hworkers.trans ih.2⟩

-- ================================================================ rounds

/-- Submitting goes by the jobs it is given, not by the queue. -/
theorem submit_with_queue (queue jobs : List Job) (p : Pool) :
    ({ p with queue := queue } : Pool).submit r jobs = p.submit r jobs := by
  induction jobs generalizing p with
  | nil => rfl
  | cons j jobs ih =>
      rw [submit, submit]
      split
      next =>
        split
        next reason _ =>
          exact ih { p with entries := p.entries ++ [⟨j, .failed reason⟩] }
        next =>
          exact ih { p with pending := p.pending ++ [⟨j, r.starts j⟩] }
      next => rfl

/-- Giving every free worker a job is a number of jobs that are refused
or taken. -/
theorem reaches_fill (limit : Option Nat) (r : Round) (p : Pool) :
    Reaches limit p (p.fill r) := by
  unfold fill
  generalize hqueue : p.queue = jobs
  induction jobs generalizing p with
  | nil =>
      cases p
      cases hqueue
      exact .refl
  | cons j jobs ih =>
      rw [submit]
      split
      next hroom =>
        split
        next reason _ =>
          refine .head (.refused reason hqueue hroom) ?_
          rw [← submit_with_queue jobs]
          exact ih _ rfl
        next =>
          refine .head (.taken (r.starts j) hqueue hroom) ?_
          rw [← submit_with_queue jobs]
          exact ih _ rfl
      next =>
        cases p
        cases hqueue
        exact .refl

/-- A sweep goes through the flights of a pool and does away with those
that have something to write down, each at the same cost in workers. If
each of them is a thing that can happen, so is the sweep. -/
theorem reaches_sweep (limit : Option Nat) (write : Flight → Option Entry)
    (cost : Nat)
    (hwrite : ∀ {p : Pool} {before after : List Flight} {f : Flight}
      {e : Entry}, p.pending = before ++ f :: after → write f = some e →
      Happens limit p { p with
        capacity := p.capacity - cost
        pending := before ++ after
        entries := p.entries ++ [e] })
    (kept rest : List Flight) (p : Pool) (hpending : p.pending = kept ++ rest) :
    Reaches limit p { p with
      capacity := p.capacity - cost * (rest.filterMap write).length
      pending := kept ++ rest.filter fun f => (write f).isNone
      entries := p.entries ++ rest.filterMap write } := by
  induction rest generalizing kept p with
  | nil =>
      rw [List.append_nil] at hpending
      simp only [List.filterMap_nil, List.filter_nil, List.append_nil,
        List.length_nil, Nat.mul_zero, Nat.sub_zero, ← hpending]
      exact .refl
  | cons f rest ih =>
      cases hf : write f with
      | none =>
          rw [List.append_cons] at hpending
          have hrest := ih (kept ++ [f]) p hpending
          simpa [List.filterMap_cons, List.filter_cons, hf] using hrest
      | some e =>
          refine .head (hwrite hpending hf) ?_
          have hrest := ih kept { p with
            capacity := p.capacity - cost
            pending := kept ++ rest
            entries := p.entries ++ [e] } rfl
          simpa [List.filterMap_cons, List.filter_cons, hf, Nat.mul_add,
            Nat.sub_sub, Nat.add_comm] using hrest

/-- Collecting is a sweep over the flights that have ended. -/
theorem reaches_collect (limit : Option Nat) (r : Round) (p : Pool) :
    Reaches limit p (p.collect r) := by
  have hsweep := reaches_sweep limit (entryIfEnded r) 0
    (fun hpending he => by
      obtain ⟨e, -, rfl⟩ := Option.map_eq_some_iff.mp he
      exact .ended e hpending) [] p.pending p rfl
  simpa [entryIfEnded, collect] using hsweep

/-- Giving up is a sweep over the flights whose time is over, and each of
them costs a worker. -/
theorem reaches_expire (limit : Option Nat) (now : Nat) (p : Pool) :
    Reaches limit p (p.expire limit now) := by
  cases limit with
  | none => exact .refl
  | some l =>
      have hsweep := reaches_sweep (some l)
        (fun f => if overdue l now f then
          some ⟨f.job, .expired f.start now⟩ else none) 1
        (fun hpending he => by
          obtain ⟨hlate, he⟩ := Option.ite_none_right_eq_some.mp he
          cases he
          exact .expired hpending rfl hlate) [] p.pending p rfl
      have hlate : (p.pending.filterMap fun f => if overdue l now f then
            some (⟨f.job, .expired f.start now⟩ : Entry) else none)
          = (p.pending.filter (overdue l now)).map fun f =>
            ⟨f.job, .expired f.start now⟩ := by
        rw [← List.filterMap_eq_map, List.filterMap_filter]
        rfl
      rw [hlate] at hsweep
      have hkept : (fun f => (if overdue l now f then
            some (⟨f.job, .expired f.start now⟩ : Entry) else none).isNone)
          = fun f => !overdue l now f := by
        funext f
        cases overdue l now f <;> rfl
      rw [hkept] at hsweep
      simpa [expire] using hsweep

end Pool

/-- What a turn goes through: it gives out jobs, collects flights that
have ended and gives up those that are late. -/
theorem Turn.reaches (limit : Option Nat) (t : Turn) :
    Pool.Reaches limit t.before t.waiting
      ∧ Pool.Reaches limit t.waiting (t.waiting.collect t.round)
      ∧ Pool.Reaches limit (t.waiting.collect t.round) (t.after limit) :=
  ⟨Pool.reaches_fill limit t.round t.before,
    Pool.reaches_collect limit t.round t.waiting,
    Pool.reaches_expire limit t.round.now _⟩

theorem Turn.reaches_after (limit : Option Nat) (t : Turn) :
    Pool.Reaches limit t.before (t.after limit) :=
  (t.reaches limit).1.trans ((t.reaches limit).2.1.trans (t.reaches limit).2.2)

namespace Pool

variable {workers : Nat} {limit : Option Nat} {rounds rest : List Round}
  {queue : List Job} {p q : Pool}

-- ================================================================== runs

/-- A pool comes to the beginning of each of its turns. -/
theorem reaches_of_mem_turns {t : Turn} (ht : t ∈ turns limit rounds p) :
    Reaches limit p t.before := by
  induction rounds, p using run_induction limit with
  | idle hidle => simp [turns_idle hidle] at ht
  | cut hidle => simp [turns] at ht
  | stuck hidle hnone =>
      rw [turns_stuck hidle hnone, List.mem_singleton] at ht
      rw [ht]
  | next hidle hsome ih =>
      rw [turns_next hidle hsome] at ht
      rcases List.mem_cons.mp ht with rfl | ht
      · exact .refl
      · exact (Turn.reaches_after limit _).trans (ih ht)

/-- A pool comes to its end. -/
theorem reaches_of_work (h : work limit rounds p = some (q, rest)) :
    Reaches limit p q := by
  refine work_induction (motive := fun _ p => Reaches limit p q) ?_ ?_ ?_ h
  · intro _
    exact .refl
  · rintro r p _ _ rfl
    exact reaches_fill limit r p
  · intro r rounds p _ _ ih
    exact (Turn.reaches_after limit _).trans ih

/-- A pool that ends with jobs in its queue has no usable worker. -/
theorem work_capacity (h : work limit rounds p = some (q, rest))
    (hqueue : q.queue ≠ []) : q.capacity = 0 := by
  refine work_induction (motive := fun _ _ => q.capacity = 0) ?_ ?_ ?_ h
  · intro hidle
    simp only [idle, Bool.and_eq_true, List.isEmpty_iff] at hidle
    exact absurd hidle.1 hqueue
  · rintro r p _ hnone rfl
    have hfull := (Turn.submitted ⟨p, r⟩).full.resolve_left hqueue
    rw [hnone] at hfull
    rw [(Turn.submitted ⟨p, r⟩).capacity]
    exact Nat.le_zero.mp hfull
  · intro r rounds p _ _ ih
    exact ih

/-- In every state that a pool comes to, whatever the order in which
things happen, the jobs in flight are no more than its usable workers,
these are no more than its workers, and those that are missing are as
many as the jobs that it has reported as out of time; so every job in
flight has a worker of its own which no such job holds. All that a run
goes through are such states. A pool ends with nothing in flight, and
with jobs in its queue only if all its workers are lost. -/
theorem capacity_accounts_for_expirations (workers : Nat)
    (limit : Option Nat) (queue : List Job) :
    (∀ p, Reaches limit (fresh workers queue) p →
      p.pending.length ≤ p.capacity ∧ p.capacity ≤ workers
      ∧ workers - p.capacity = p.expirations
      ∧ p.pending.length + p.expirations ≤ workers)
    ∧ (∀ rounds, ∀ t ∈ turns limit rounds (fresh workers queue),
      Reaches limit (fresh workers queue) t.before
      ∧ Reaches limit t.before t.waiting
      ∧ Reaches limit t.waiting (t.waiting.collect t.round)
      ∧ Reaches limit (t.waiting.collect t.round) (t.after limit))
    ∧ ∀ rounds q rest, work limit rounds (fresh workers queue)
        = some (q, rest) →
      Reaches limit (fresh workers queue) q ∧ q.pending = []
      ∧ q.lost = workers - q.capacity
      ∧ (q.queue ≠ [] → q.capacity = 0 ∧ q.lost = workers)
      ∧ (q.lost < workers → q.queue = []) := by
  have hfresh := fresh_balanced workers queue
  refine ⟨fun p hp => ?_, fun rounds t ht => ?_, fun rounds q rest h => ?_⟩
  · obtain ⟨⟨hflight, hbalance⟩, hworkers⟩ := hp.balanced hfresh
    have hworkers : p.workers = workers := hworkers
    omega
  · exact ⟨reaches_of_mem_turns ht, t.reaches limit⟩
  · have hq := reaches_of_work h
    have hlost : q.lost = workers - q.capacity := by
      rw [lost, (hq.balanced hfresh).2]
      rfl
    have hleft : q.queue ≠ [] → q.capacity = 0 ∧ q.lost = workers := by
      intro hqueue
      have hcapacity := work_capacity h hqueue
      exact ⟨hcapacity, by rw [hlost, hcapacity, Nat.sub_zero]⟩
    refine ⟨hq, work_pending h, hlost, hleft, fun hlt => ?_⟩
    by_contra hqueue
    exact absurd (hleft hqueue).2 (Nat.ne_of_lt hlt)

/-- Under `Batch.lossyRounds` two workers are lost one after the other,
and a job is left. -/
theorem capacity_accounts_for_lossyRounds :
    ∃ q rest, work (some 5) Batch.lossyRounds
          (fresh 2 (Job.ofPaths ["a", "b", "a", "c"])) = some (q, rest)
      ∧ q.queue = [⟨3, "c"⟩] ∧ q.expirations = 2
      ∧ q.pending = [] ∧ q.capacity = 0 ∧ q.lost = 2 := by
  obtain ⟨hstates, -, hend⟩ := capacity_accounts_for_expirations 2 (some 5)
    (Job.ofPaths ["a", "b", "a", "c"])
  obtain ⟨⟨q, rest⟩, hwork, hqueue⟩ : ∃ end' : Pool × List Round,
      work (some 5) Batch.lossyRounds
          (fresh 2 (Job.ofPaths ["a", "b", "a", "c"])) = some end'
        ∧ end'.1.queue = [⟨3, "c"⟩] :=
    ⟨_, rfl, by decide⟩
  obtain ⟨hq, hpending, -, hleft, -⟩ := hend _ q rest hwork
  obtain ⟨hcapacity, hlost⟩ := hleft (by rw [hqueue]; exact nofun)
  obtain ⟨-, -, hexpired, -⟩ := hstates q hq
  rw [hcapacity] at hexpired
  exact ⟨q, rest, hwork, hqueue, hexpired.symm, hpending, hcapacity, hlost⟩

end Pool

end Outline
