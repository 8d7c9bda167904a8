/-
The history of a batch, turn by turn.

`Pool.work` answers with the pool as it ends. What a batch owes to its
files is said about the way there: who was given a job and when, who had
ended at the end of a round, whose time was over then. So proofs go by
the turns of a pool.

# Where entries come from

Every step only ever adds to the entries of a pool, so the entries of a
whole batch are those of its turns, one turn after the other
(`allEntries_eq`), and so are its events (`flatMap_events_eq`). What a
turn writes is said in the words of the workers (`mem_written`): a
submission was refused, a flight has ended, or the time of a flight is
over.
-/
import Outline.Batch.Run

namespace Outline

namespace Pool

-- ================================================================== runs

variable {workers : Nat} {limit : Option Nat} {r : Round}
  {rounds rest : List Round} {p : Pool}

/-- The four ways of a pool: it has nothing to do, its rounds are over,
nobody can be in flight any more, or it goes on with the pool after the
turn. -/
theorem run_induction (limit : Option Nat)
    {motive : List Round → Pool → Prop}
    (idle : ∀ {rounds p}, p.idle = true → motive rounds p)
    (cut : ∀ {p}, p.idle = false → motive [] p)
    (stuck : ∀ {r rounds p}, p.idle = false →
      (Turn.waiting ⟨p, r⟩).pending = [] → motive (r :: rounds) p)
    (next : ∀ {r rounds p}, p.idle = false →
      (Turn.waiting ⟨p, r⟩).pending ≠ [] →
      motive rounds (Turn.after limit ⟨p, r⟩) → motive (r :: rounds) p) :
    ∀ rounds p, motive rounds p := by
  intro rounds
  induction rounds with
  | nil =>
      intro p
      cases hidle : p.idle with
      | true => exact idle hidle
      | false => exact cut hidle
  | cons r rounds ih =>
      intro p
      cases hidle : p.idle with
      | true => exact idle hidle
      | false =>
          by_cases hnone : (Turn.waiting ⟨p, r⟩).pending = []
          · exact stuck hidle hnone
          · exact next hidle hnone (ih _)

theorem work_idle (h : p.idle = true) :
    work limit rounds p = some (p, rounds) := by
  cases rounds <;> simp [work, h]

theorem work_cut (h : p.idle = false) : work limit [] p = none := by
  simp [work, h]

theorem work_stuck (h : p.idle = false)
    (hnone : (Turn.waiting ⟨p, r⟩).pending = []) :
    work limit (r :: rounds) p = some (Turn.waiting ⟨p, r⟩, rounds) := by
  unfold Turn.waiting at hnone ⊢
  simp [work, h, hnone]

theorem work_next (h : p.idle = false)
    (hsome : (Turn.waiting ⟨p, r⟩).pending ≠ []) :
    work limit (r :: rounds) p
      = work limit rounds (Turn.after limit ⟨p, r⟩) := by
  unfold Turn.after
  unfold Turn.waiting at hsome ⊢
  simp [work, h, hsome]

theorem turns_idle (h : p.idle = true) : turns limit rounds p = [] := by
  cases rounds <;> simp [turns, h]

theorem turns_stuck (h : p.idle = false)
    (hnone : (Turn.waiting ⟨p, r⟩).pending = []) :
    turns limit (r :: rounds) p = [⟨p, r⟩] := by
  simp [turns, h, hnone]

theorem turns_next (h : p.idle = false)
    (hsome : (Turn.waiting ⟨p, r⟩).pending ≠ []) :
    turns limit (r :: rounds) p
      = ⟨p, r⟩ :: turns limit rounds (Turn.after limit ⟨p, r⟩) := by
  simp [turns, h, hsome]

/-- A pool that ends was idle, or it ends with a turn in which nobody can
be in flight, or it ends as the pool after the turn does. -/
theorem work_induction {q : Pool} {motive : List Round → Pool → Prop}
    (idle : q.idle = true → motive rest q)
    (stuck : ∀ {r p}, p.idle = false → (Turn.waiting ⟨p, r⟩).pending = [] →
      q = Turn.waiting ⟨p, r⟩ → motive (r :: rest) p)
    (next : ∀ {r rounds p}, p.idle = false →
      (Turn.waiting ⟨p, r⟩).pending ≠ [] →
      motive rounds (Turn.after limit ⟨p, r⟩) → motive (r :: rounds) p)
    (h : work limit rounds p = some (q, rest)) : motive rounds p := by
  induction rounds, p using run_induction limit with
  | idle hidle =>
      rw [work_idle hidle] at h
      cases h
      exact idle hidle
  | cut hidle =>
      rw [work_cut hidle] at h
      cases h
  | stuck hidle hnone =>
      rw [work_stuck hidle hnone] at h
      cases h
      exact stuck hidle hnone rfl
  | next hidle hsome ih =>
      rw [work_next hidle hsome] at h
      exact next hidle hsome (ih h)

/-- A batch that ends has no jobs left, or its first pool ends and the
jobs which that one leaves are done in the same way. -/
theorem batch_induction
    {motive : Nat → List Job → List Round → List Pool → Prop}
    (nil : ∀ {count rounds}, motive count [] rounds [])
    (cons : ∀ {count j queue rounds p rest others},
      work limit rounds (fresh workers (j :: queue)) = some (p, rest) →
      workAll workers limit count p.queue rest = some others →
      motive count p.queue rest others →
      motive (count + 1) (j :: queue) rounds (p :: others)) :
    ∀ {count queue rounds pools},
      workAll workers limit count queue rounds = some pools →
      motive count queue rounds pools := by
  intro count
  induction count with
  | zero =>
      intro queue rounds pools h
      cases queue with
      | nil =>
          cases h
          exact nil
      | cons j queue => cases h
  | succ count ih =>
      intro queue rounds pools h
      cases queue with
      | nil =>
          cases h
          exact nil
      | cons j queue =>
          simp only [workAll] at h
          split at h
          next => cases h
          next p rest hwork =>
            obtain ⟨others, hothers, rfl⟩ := Option.map_eq_some_iff.mp h
            exact cons hwork hothers (ih hothers)

/-- The rounds that are left are the last ones. -/
theorem work_rest {q : Pool} (h : work limit rounds p = some (q, rest)) :
    rest <:+ rounds := by
  refine work_induction (motive := fun rounds _ => rest <:+ rounds)
    ?_ ?_ ?_ h
  · intro _
    exact List.suffix_refl _
  · intro r p _ _ _
    exact List.suffix_cons ..
  · intro r rounds p _ _ ih
    exact ih.trans (List.suffix_cons ..)

/-- In every turn the workers do as one of the rounds says. -/
theorem round_mem_of_mem_turns {t : Turn} (ht : t ∈ turns limit rounds p) :
    t.round ∈ rounds := by
  induction rounds, p using run_induction limit with
  | idle hidle => simp [turns_idle hidle] at ht
  | cut hidle => simp [turns] at ht
  | stuck hidle hnone =>
      rw [turns_stuck hidle hnone, List.mem_singleton] at ht
      rw [ht]
      exact List.mem_cons_self ..
  | next hidle hsome ih =>
      rw [turns_next hidle hsome] at ht
      rcases List.mem_cons.mp ht with rfl | ht
      · exact List.mem_cons_self ..
      · exact List.mem_cons_of_mem _ (ih ht)

theorem turnsAll_cons {count : Nat} {j : Job} {queue : List Job}
    (h : work limit rounds (fresh workers (j :: queue)) = some (p, rest)) :
    turnsAll workers limit (count + 1) (j :: queue) rounds
      = turns limit rounds (fresh workers (j :: queue))
        ++ turnsAll workers limit count p.queue rest := by
  simp only [turnsAll, h]

-- =========================================================== submission

/-- What submitting does: the queue loses a first part, of which the
jobs that are not refused are now in flight and the others are written
down. It ends because the queue or the free workers do. -/
structure Submitted (r : Round) (p q : Pool) (jobs taken : List Job) :
    Prop where
  split : jobs = taken ++ q.queue
  pending : q.pending = p.pending ++ taken.filterMap r.flight?
  entries : q.entries = p.entries ++ taken.filterMap r.refusal?
  capacity : q.capacity = p.capacity
  workers : q.workers = p.workers
  full : q.queue = [] ∨ p.capacity ≤ q.pending.length

/-- One job more in front: it is in flight or written down before the
others are submitted. -/
theorem Submitted.cons {r : Round} {p p' q : Pool} {j : Job}
    {jobs taken : List Job} (h : Submitted r p' q jobs taken)
    (hpending : p'.pending = p.pending ++ (r.flight? j).toList)
    (hentries : p'.entries = p.entries ++ (r.refusal? j).toList)
    (hcapacity : p'.capacity = p.capacity)
    (hworkers : p'.workers = p.workers) :
    Submitted r p q (j :: jobs) (j :: taken) := by
  constructor
  · rw [List.cons_append, ← h.split]
  · rw [h.pending, hpending, List.filterMap_cons]
    cases r.flight? j <;> simp
  · rw [h.entries, hentries, List.filterMap_cons]
    cases r.refusal? j <;> simp
  · rw [h.capacity, hcapacity]
  · rw [h.workers, hworkers]
  · rw [← hcapacity]
    exact h.full

/-- Submitting does what it should. -/
theorem submit_spec (r : Round) :
    ∀ (jobs : List Job) (p : Pool),
      ∃ taken, Submitted r p (p.submit r jobs) jobs taken := by
  intro jobs
  induction jobs with
  | nil =>
      intro p
      exact ⟨[], rfl, by simp [submit], by simp [submit], rfl, rfl, .inl rfl⟩
  | cons j rest ih =>
      intro p
      rw [submit]
      split
      next hroom =>
        cases href : r.refused j with
        | some reason =>
            obtain ⟨taken, h⟩ :=
              ih { p with entries := p.entries ++ [⟨j, .failed reason⟩] }
            exact ⟨j :: taken, h.cons (by simp [Round.flight?, href])
              (by simp [Round.refusal?, href]) rfl rfl⟩
        | none =>
            obtain ⟨taken, h⟩ :=
              ih { p with pending := p.pending ++ [⟨j, r.starts j⟩] }
            exact ⟨j :: taken, h.cons (by simp [Round.flight?, href])
              (by simp [Round.refusal?, href]) rfl rfl⟩
      next hroom =>
        exact ⟨[], rfl, by simp, by simp, rfl, rfl,
          .inr (Nat.le_of_not_lt hroom)⟩

end Pool

/-- What the beginning of a turn does to the pool. -/
theorem Turn.submitted (t : Turn) :
    Pool.Submitted t.round t.before t.waiting t.before.queue t.taken := by
  obtain ⟨taken, h⟩ := Pool.submit_spec t.round t.before.queue t.before
  have hlen : t.before.queue.length - t.waiting.queue.length
      = taken.length := by
    have := congrArg List.length h.split
    rw [List.length_append] at this
    unfold Turn.waiting Pool.fill
    omega
  have htaken : t.taken = taken := by
    unfold Turn.taken
    rw [hlen]
    exact (congrArg (List.take taken.length) h.split).trans List.take_left
  rw [htaken]
  exact h

-- ================================================================ entries

namespace Turn

/-- The pool after a turn has written down what the turn has. -/
theorem after_entries (limit : Option Nat) (t : Turn) :
    (t.after limit).entries = t.before.entries ++ t.written limit := by
  unfold Turn.after Turn.written Turn.refusals Pool.settle Turn.late
  cases limit with
  | none => simp [Pool.expire, Pool.collect, t.submitted.entries]
  | some limit =>
      simp [Pool.expire, Pool.collect, t.submitted.entries]

/-- A turn in which nobody is in flight writes down refusals only. -/
theorem waiting_entries {t : Turn} (limit : Option Nat)
    (hnone : t.waiting.pending = []) :
    t.waiting.entries = t.before.entries ++ t.written limit := by
  unfold Turn.written Turn.refusals Turn.late
  rw [t.submitted.entries, hnone]
  cases limit <;> simp [Pool.collect, hnone]

/-- Where nobody is in flight there is nothing to settle. -/
theorem after_of_pending_eq_nil {t : Turn} (limit : Option Nat)
    (hnone : t.waiting.pending = []) : t.after limit = t.waiting := by
  rw [Turn.after]
  cases hwaiting : t.waiting with
  | mk workers capacity queue pending entries =>
      rw [hwaiting] at hnone
      cases hnone
      cases limit <;> simp [Pool.settle, Pool.collect, Pool.expire]

end Turn

namespace Pool

variable {workers count : Nat} {limit : Option Nat}
  {rounds rest : List Round} {queue : List Job} {p q : Pool}
  {pools : List Pool}

/-- The entries of a pool at its end are those it began with and those
of its turns. -/
theorem work_entries (h : work limit rounds p = some (q, rest)) :
    q.entries
      = p.entries ++ (turns limit rounds p).flatMap (Turn.written limit) := by
  refine work_induction (motive := fun rounds p => q.entries
    = p.entries ++ (turns limit rounds p).flatMap (Turn.written limit))
    ?_ ?_ ?_ h
  · intro hidle
    simp [turns_idle hidle]
  · intro r p hidle hnone hq
    rw [hq, turns_stuck hidle hnone, List.flatMap_singleton]
    exact Turn.waiting_entries limit hnone
  · intro r rounds p hidle hsome ih
    rw [ih, turns_next hidle hsome, List.flatMap_cons, ← List.append_assoc,
      Turn.after_entries]

/-- In every turn of a batch the workers do as one of the rounds
says. -/
theorem round_mem_of_mem_turnsAll {t : Turn}
    (ht : t ∈ turnsAll workers limit count queue rounds) :
    t.round ∈ rounds := by
  induction count generalizing queue rounds with
  | zero => cases queue <;> simp [turnsAll] at ht
  | succ count ih =>
      cases queue with
      | nil => simp [turnsAll] at ht
      | cons j queue =>
          rw [turnsAll] at ht
          rcases List.mem_append.mp ht with ht | ht
          · exact round_mem_of_mem_turns ht
          · split at ht
            next => cases ht
            next hwork => exact (work_rest hwork).subset (ih ht)

/-- The events of a pool at its end are those of what it began with and of
its turns. -/
theorem work_events (timeout : Value)
    (h : work limit rounds p = some (q, rest)) :
    q.events timeout = p.entries.flatMap (Entry.events timeout)
      ++ if p.idle then p.closing
        else (turns limit rounds p).flatMap (Turn.events timeout limit) := by
  refine work_induction (motive := fun rounds p => q.events timeout
    = p.entries.flatMap (Entry.events timeout)
      ++ if p.idle then p.closing
        else (turns limit rounds p).flatMap (Turn.events timeout limit))
    ?_ ?_ ?_ h
  · intro hidle
    rw [if_pos hidle]
    rfl
  · intro r p hidle hnone hq
    have hcloses : Turn.closes limit ⟨p, r⟩ = true := by
      simp [Turn.closes, hnone]
    rw [hidle, if_neg Bool.false_ne_true, turns_stuck hidle hnone,
      List.flatMap_singleton, Turn.events, if_pos hcloses,
      Turn.after_of_pending_eq_nil limit hnone, hq, events,
      Turn.waiting_entries limit hnone, List.flatMap_append,
      List.append_assoc]
  · intro r rounds p hidle hsome ih
    have hcloses : Turn.closes limit ⟨p, r⟩
        = (Turn.after limit ⟨p, r⟩).idle := by
      simp [Turn.closes, hsome]
    rw [ih, hidle, if_neg Bool.false_ne_true, turns_next hidle hsome,
      List.flatMap_cons, Turn.events, hcloses, Turn.after_entries,
      List.flatMap_append]
    cases hend : (Turn.after limit ⟨p, r⟩).idle with
    | true => simp [turns_idle hend]
    | false => simp

/-- The events of a batch are those of its turns, in order. So what a batch
has logged by some turn does not depend on how it goes on. -/
theorem flatMap_events_eq (timeout : Value)
    (h : workAll workers limit count queue rounds = some pools) :
    pools.flatMap (events timeout)
      = (turnsAll workers limit count queue rounds).flatMap
          (Turn.events timeout limit) := by
  refine batch_induction (motive := fun count queue rounds pools =>
    pools.flatMap (events timeout)
      = (turnsAll workers limit count queue rounds).flatMap
          (Turn.events timeout limit)) ?_ ?_ h
  · intro count rounds
    simp [turnsAll]
  · intro count j queue rounds p rest others hwork _ ih
    have hbusy : (fresh workers (j :: queue)).idle = false := rfl
    rw [turnsAll_cons hwork, List.flatMap_append, ← ih, List.flatMap_cons,
      work_events timeout hwork, hbusy]
    rfl

end Pool

end Outline
