import ForwardProxy.Proofs.Pool.Quiescence

/-!
# What a stop waits for

Once a stop has begun, no task is taken any more, but none that was taken before is lost. When the
pool has settled, the first stop has come to its end exactly if no job is left. From then on all
workers have ended and nothing starts again.
-/

namespace ForwardProxy.Pool

variable {α ρ : Type} {pool : Pool α ρ}

/-- What whoever stops a pool can rely on. -/
structure Drains (pool : Pool α ρ) : Prop where
  /-- The pool takes no task of a submitter that asks after the first stop has begun. -/
  closed : ∀ id, Precedes pool.log ⟨.stopBegun, 0⟩ ⟨.submitted, id⟩ → ⟨.admitted, id⟩ ∉ pool.log
  /-- A job that was taken has ended, runs, is queued, or waits for a place, unless its submitter
  went away while it waited for a place. -/
  kept : ∀ id, ⟨.admitted, id⟩ ∈ pool.log →
    ¬Precedes pool.log ⟨.cancelled, id⟩ ⟨.queued, id⟩ →
      ⟨.finished, id⟩ ∈ pool.log ∨ ∃ job ∈ pool.running ++ pool.queue ++ pool.waiting, job.id = id
  /-- A job that was taken has ended, if the pool has settled and no gate holds a job. -/
  done : pool.move? = none → (∀ job ∈ pool.running, job.gated = false) →
    ∀ id, ⟨.admitted, id⟩ ∈ pool.log → ¬Precedes pool.log ⟨.cancelled, id⟩ ⟨.queued, id⟩ →
      ⟨.finished, id⟩ ∈ pool.log
  /-- If the pool has settled, the first stop has come to its end exactly if no job is left. -/
  returned : pool.move? = none → ⟨.stopBegun, 0⟩ ∈ pool.log →
    (⟨.stopReturned, 0⟩ ∈ pool.log ↔
      pool.running = [] ∧ pool.queue = [] ∧ pool.waiting = [])
  /-- Once the first stop has come to its end, all workers have ended, and nothing starts again. -/
  afterwards : ⟨.stopReturned, 0⟩ ∈ pool.log → ∀ later, Reachable pool later →
    later.ended = later.size ∧ later.started = pool.started

/-- The task of a submitter that did not go away too early was taken, if it was taken at all. -/
theorem Sound.taken_of_admitted (h : pool.Sound) {id : Nat} (hadmitted : ⟨.admitted, id⟩ ∈ pool.log)
    (hstayed : ¬Precedes pool.log ⟨.cancelled, id⟩ ⟨.queued, id⟩) : id ∈ pool.taken :=
  mem_taken_iff.mpr ⟨h.ordered.lt_of_mem hadmitted (by decide), hadmitted, hstayed⟩

/-- Whatever is done to a new pool, and in whatever order it moves, a stop drains it. -/
theorem drains_of_reachable {size queueCapacity : Nat}
    (h : Reachable (withQueue size queueCapacity) pool) : pool.Drains := by
  have hsound := (sound_withQueue size queueCapacity).reachable h
  refine ⟨?_, ?_, ?_, ?_, ?_⟩
  · intro id hlate hadmitted
    exact ((hsound.accounted.admitted id).mp hadmitted).2 hlate
  · intro id hadmitted hstayed
    exact hsound.finished_or_mem_jobs (hsound.taken_of_admitted hadmitted hstayed)
  · intro hsettled hopen id hadmitted hstayed
    exact hsound.finished_of_settled hsettled hopen (hsound.taken_of_admitted hadmitted hstayed)
  · intro hsettled hbegun
    constructor
    · intro hreturned
      exact hsound.staffed.empty_of_ended (hsound.stopping.returned (mem_numbers.mpr hreturned))
    · rintro ⟨hrunning, -, -⟩
      have hended := hsound.ended_of_settled hsettled (hsound.stopping.sealed_iff.mpr hbegun)
        (hsound.jobs_of_settled hsettled hrunning)
      have hpending := hsound.stopping.pending
      rw [hsound.stopping_of_settled hsettled hended, List.map_nil, List.append_nil] at hpending
      rw [← mem_numbers, hpending.mem_iff, ← hsound.stopping.begun, mem_numbers]
      exact hbegun
  · intro hreturned later hlater
    have hended := hsound.stopping.returned (mem_numbers.mpr hreturned)
    exact (hsound.staffed.idle_of_ended hended hlater).2

/-- After a busy day, the pool has settled, the stop has come to its end, and so has every job that
was taken and whose submitter did not go away too early. -/
theorem drains_afterBusyDay :
    Reachable (withQueue 1 1) afterBusyDay ∧ afterBusyDay.Drains ∧ afterBusyDay.move? = none ∧
      afterBusyDay.stopsReturned = [0] ∧
      numbers .finished afterBusyDay.log = [0, 1, 2, 4] :=
  ⟨reachable_afterBusyDay, drains_of_reachable reachable_afterBusyDay, move?_run 1 1 busyDay,
    by cbv, by cbv⟩

end ForwardProxy.Pool
